import AdminConsole.Proofs.Session
import AdminConsole.Proofs.Text.Blank

/-!
# Older layouts

Sessions, claims and users are read from the layouts of other writers too, in which members stand in
another order, are left out where they say nothing, are written in another way or stand beside
members that nobody knows (`Layout`). Any text in such a layout is read as what the members say
(`older_layouts_read`). -/

namespace AdminConsole

/-! ### Words in any case -/

namespace Text

/-- The word in any case of its letters from A to Z, with white space around it. -/
def Says (word s : String) : Prop :=
  ∃ front core back, s.toList = front ++ core ++ back ∧ (∀ c ∈ front, isBlank c = true) ∧
    (∀ c ∈ back, isBlank c = true) ∧ core.map Char.toLower = word.toList

theorem toLower_of_isBlank {c : Char} (h : isBlank c = true) : c.toLower = c := by
  refine dif_neg ?_
  rintro ⟨lower, upper⟩
  have least : 65 ≤ c.toNat := lower
  have most : c.toNat ≤ 90 := upper
  simp [isBlank] at h
  omega

theorem toList_lower_trim (s : String) :
    (toAsciiLower (trim s)).toList = (stripChars isBlank s.toList).map Char.toLower := by
  rw [toAsciiLower, String.toList_map, trim, strip, String.toList_ofList]

/-- A word without white space in it is what is left. -/
theorem Says.lower_trim {word s : String} (h : Says word s)
    (visible : word.toList.all (!isBlank ·)) : toAsciiLower (trim s) = word := by
  obtain ⟨front, core, back, eq, hf, hb, folded⟩ := h
  rw [← folded] at visible
  have inside : ∀ c ∈ core, isBlank c = false := by
    intro c hc
    have lowered : isBlank c.toLower = false := by
      simpa using List.all_eq_true.mp visible _ (List.mem_map_of_mem hc)
    cases blank : isBlank c with
    | false => rfl
    | true => rw [← lowered, toLower_of_isBlank blank, blank]
  have between : stripChars isBlank (front ++ core ++ back) = core := stripChars_between
    (fun c hc => inside c (List.mem_of_mem_head? hc))
    (fun c hc => inside c (List.mem_of_mem_getLast? hc)) hf hb
  rw [← String.ofList_toList (s := toAsciiLower (trim s)), toList_lower_trim, eq, between, folded,
    String.ofList_toList]

theorem Says.of_lower_trim {word s : String} (h : toAsciiLower (trim s) = word) : Says word s := by
  obtain ⟨front, back, hf, hb, eq⟩ := exists_ends isBlank s.toList
  exact ⟨front, _, back, eq, hf, hb, by rw [← toList_lower_trim, h]⟩

end Text

namespace Json

open Record

/-- Only a text that says true stands for true. -/
theorem isTrueText_iff {s : String} : Decoder.isTrueText s = true ↔ Text.Says "true" s := by
  rw [Decoder.isTrueText, beq_iff_eq]
  exact ⟨Text.Says.of_lower_trim, fun said => said.lower_trim (by decide)⟩

theorem isTrueText_of_word {b : Bool} {s : String}
    (h : Text.Says (if b then "true" else "false") s) : Decoder.isTrueText s = b := by
  cases b with
  | true => exact isTrueText_iff.mpr h
  | false =>
    have lower := Text.Says.lower_trim h (by decide)
    rw [Decoder.isTrueText, lower]
    decide

/-! ### Layouts -/

/-- How a value may be written: as it is today, or in a way in which it has been. -/
inductive Older : Data → Value → Prop
  | same (d : Data) : Older d d.tree
  | noTexts : Older (.ofTexts []) .null
  | no : Older (.bool false) .null
  | word {b : Bool} {s : String} (h : Text.Says (if b then "true" else "false") s) :
    Older (.bool b) (.string (.ok s))
  /-- The strings of a set, in any order and as often as may be. -/
  | texts {ss ss' : List String} (h : ∀ t, t ∈ ss' ↔ t ∈ ss) :
    Older (.ofTexts ss) (Data.ofTexts ss').tree

/-- What goes without saying, to which the empty text belongs if `blank` is true. -/
inductive IsDefault (blank : Bool) : Data → Prop
  | null : IsDefault blank .null
  | no : IsDefault blank (.bool false)
  | noTexts : IsDefault blank (.ofTexts [])
  | noText (h : blank = true) : IsDefault blank (.string "")

/-- The members `out` say what the members `ms` say: each of them stands somewhere, once, or goes
without saying. Members with other names may stand between them. -/
structure Layout (blank : Bool) (ms : List (String × Data)) (out : List (String × Value)) :
    Prop where
  once : ∀ m ∈ ms, (out.map Prod.fst).count m.1 ≤ 1
  said : ∀ m ∈ ms, (∃ v, (m.1, v) ∈ out ∧ Older m.2 v) ∨
    m.1 ∉ out.map Prod.fst ∧ IsDefault blank m.2

/-- The text is an object of members that say what those of the data say. -/
def LaidOut (blank : Bool) (d : Data) (text : String) : Prop :=
  ∃ ms out, d = .object ms ∧ Layout blank ms out ∧ Writes (.object (membersOf out)) text

/-! ### What the fields are read as -/

section fields

variable {depth : Nat} {v : Value} {blank : Bool}

theorem flag_of_older {b : Bool} (h : Older (.bool b) v) : Decoder.flag depth v = .ok b := by
  cases h with
  | same => exact Decoder.flag_bool depth b
  | no => rfl
  | word h => exact congrArg Except.ok (isTrueText_of_word h)

theorem text_of_older {s : String} (h : Older (.string s) v) : Decoder.text depth v = .ok s := by
  cases h with
  | same => exact Decoder.text_string depth s

theorem optional_text_of_older {o : Option String} (h : Older (.ofOption o) v) :
    Decoder.optional .text depth v = .ok o := by
  cases o <;> cases h with
  | same => exact Decoder.optional_text_ofOption depth _

theorem ofTexts_injective {ss ss' : List String} (h : Data.ofTexts ss = Data.ofTexts ss') :
    ss = ss' :=
  (List.map_inj_right fun _ _ => Data.string.inj).mp (Data.array.inj h)

theorem textSet_of_older {s : TextSet} (h : Older (.ofTexts s.toList) v) :
    Decoder.textSet (depth + 2) v = .ok s := by
  generalize written : Data.ofTexts s.toList = d at h
  cases h with
  | same =>
    rw [← written]
    exact Decoder.textSet_ofTexts depth s
  | noTexts =>
    have none := ofTexts_injective written
    have empty : s = .empty := TextSet.eq_of_mem_iff fun t => by
      change t ∈ s.toList ↔ t ∈ []
      rw [none]
    rw [empty]
    rfl
  | texts h =>
    obtain rfl := ofTexts_injective written
    have same : TextSet.ofList _ = s :=
      TextSet.eq_of_mem_iff fun t => TextSet.mem_ofList.trans (h t)
    rw [Decoder.textSet_texts, same]
  | no | word => exact nomatch written

theorem eq_of_isDefault_texts {s : TextSet} (h : IsDefault blank (.ofTexts s.toList)) :
    TextSet.empty = s := by
  generalize written : Data.ofTexts s.toList = d at h
  cases h with
  | noTexts =>
    have none := ofTexts_injective written
    refine TextSet.eq_of_mem_iff fun t => ?_
    change t ∈ [] ↔ t ∈ s.toList
    rw [none]
  | null | no | noText => exact nomatch written

theorem eq_of_isDefault_option {o : Option String} (h : IsDefault false (.ofOption o)) :
    none = o := by
  cases o with
  | none => rfl
  | some s =>
    cases h with
    | noText h => exact nomatch h

theorem eq_of_isDefault_bool {b : Bool} (h : IsDefault blank (.bool b)) : false = b := by
  cases h
  rfl

theorem eq_of_isDefault_text {s : String} (h : IsDefault blank (.string s)) : "" = s := by
  cases h
  rfl

namespace Layout

variable {ms : List (String × Data)} {out : List (String × Value)} {name : String}

/-- A member of the data is read in any layout of it, or goes without saying. -/
theorem readsAs {α : Type} (h : Layout blank ms out) {data : Data} (hm : (name, data) ∈ ms)
    {d : Decoder α} {default a : α} (older : ∀ {v}, Older data v → d depth v = .ok a)
    (unsaid : IsDefault blank data → default = a) :
    ReadsAs d default depth (find? out name) a := by
  rcases h.said _ hm with ⟨v, there, said⟩ | ⟨absent, left⟩
  · rw [find?_of_count there (h.once _ hm)]
    exact older said
  · rw [find?_eq_none_iff.mpr absent]
    exact unsaid left

theorem optionalText (h : Layout false ms out) {o : Option String}
    (hm : (name, .ofOption o) ∈ ms) :
    ReadsAs (.optional .text) none depth (find? out name) o :=
  h.readsAs hm optional_text_of_older eq_of_isDefault_option

theorem text (h : Layout blank ms out) {s : String} (hm : (name, .string s) ∈ ms) :
    ReadsAs .text "" depth (find? out name) s :=
  h.readsAs hm text_of_older eq_of_isDefault_text

theorem textSet (h : Layout blank ms out) {s : TextSet} (hm : (name, .ofTexts s.toList) ∈ ms) :
    ReadsAs .textSet .empty (depth + 2) (find? out name) s :=
  h.readsAs hm textSet_of_older eq_of_isDefault_texts

theorem flag (h : Layout blank ms out) {b : Bool} (hm : (name, .bool b) ∈ ms) :
    ReadsAs .flag false depth (find? out name) b :=
  h.readsAs hm flag_of_older eq_of_isDefault_bool

end Layout

end fields

/-! ### Texts -/

theorem skip_of_membersOf {ms : List (String × Value)} (h : (membersOf ms).skip = .ok ()) :
    ∀ m ∈ ms, m.2.skip = .ok () := by
  induction ms with
  | nil => simp
  | cons m ms ih =>
    obtain ⟨key, v⟩ := m
    rw [membersOf, Members.skip] at h
    cases first : v.skip with
    | error c =>
      rw [first] at h
      cases h
    | ok _ =>
      rw [first] at h
      exact List.forall_mem_cons.mpr ⟨first, ih h⟩

theorem Writes.skip {ms : List (String × Value)} {text : String}
    (h : Writes (.object (membersOf ms)) text) : ∀ m ∈ ms, m.2.skip = .ok () := by
  obtain ⟨_, _, _, -, -, spelled, -⟩ := h
  exact skip_of_membersOf (skip_of_spells spelled)

/-- **A record whose fields are the members of some data is read from any layout of the data.** -/
theorem decodeText_of_layout {α : Type} {r : Record α} (hr : r.IsOpen)
    (nodup : (r.fields.map (·.name)).Nodup) {blank : Bool} {ms : List (String × Data)}
    {out : List (String × Value)} (names : r.fields.map (·.name) = ms.map Prod.fst)
    (layout : Layout blank ms out) {kind text : String}
    (written : Writes (.object (membersOf out)) text) {a : α}
    (built : r.build 127 (find? out) = .ok a) : decodeText (r.decoder kind) text = .ok a := by
  have once : ∀ f ∈ r.fields, (out.map Prod.fst).count f.name ≤ 1 := by
    intro f hf
    have named : f.name ∈ ms.map Prod.fst := names ▸ List.mem_map_of_mem hf
    obtain ⟨m, hm, eq⟩ := List.mem_map.mp named
    exact eq ▸ layout.once m hm
  rw [decodeText_of_writes _ written]
  exact (hr.decoder_object_iff nodup).mpr ⟨once, fun m hm _ => written.skip m hm, built⟩

end Json

open Json

/-- **Older layouts are read as what they say**: sessions, claims and users, whatever the order of
the members and the white space between them, whichever of them are left out because they go without
saying, however sets and the flag are written, and whatever stands beside them. -/
theorem older_layouts_read :
    (∀ (s : Session) (text : String), LaidOut false s.toData text →
      decodeText Session.decoder text = .ok s) ∧
    (∀ (c : Claims) (text : String), LaidOut true c.toData text →
      decodeText Claims.decoder text = .ok c) ∧
    ∀ (u : CurrentUser) (text : String), LaidOut false u.toData text →
      decodeText CurrentUser.decoder text = .ok u := by
  refine ⟨?_, ?_, ?_⟩
  · rintro s text ⟨ms, out, eq, layout, written⟩
    obtain rfl := Data.object.inj eq
    refine decodeText_of_layout Session.isOpen_record (by decide) rfl layout written
      (Session.build_iff.mpr ?_)
    exact {
      userId := layout.optionalText (by simp)
      token := layout.optionalText (by simp)
      username := layout.optionalText (by simp)
      email := layout.optionalText (by simp)
      permissions := layout.textSet (by simp)
      privileges := layout.textSet (by simp)
      acceptedTos := layout.flag (by simp) }
  · rintro c text ⟨ms, out, eq, layout, written⟩
    obtain rfl := Data.object.inj eq
    refine decodeText_of_layout Claims.isOpen_record (by decide) rfl layout written
      (Claims.build_iff.mpr ?_)
    exact {
      userId := layout.text (by simp)
      token := layout.text (by simp)
      email := layout.text (by simp)
      permissions := layout.textSet (by simp)
      acceptedTos := layout.flag (by simp) }
  · rintro u text ⟨ms, out, eq, layout, written⟩
    obtain rfl := Data.object.inj eq
    refine decodeText_of_layout CurrentUser.isOpen_record (by decide) rfl layout written
      (CurrentUser.build_iff.mpr ?_)
    exact {
      uuid := layout.optionalText (by simp)
      email := layout.optionalText (by simp)
      privileges := layout.textSet (by simp)
      queryScopes := layout.textSet (by simp)
      acceptedTos := layout.flag (by simp)
      token := layout.optionalText (by simp) }

/-- Members in another order, with a flag in words, a tag that is there twice and a member that
nobody knows. Most of the fields go without saying. -/
def olderMembers : List (String × Data) :=
  [("acceptedTOS", .string " TRUE\t"), ("theme", .array [.object [("dark", .null)], .natural 7]),
    ("permissions", .ofTexts ["B", "A", "B"]), ("token", .string "t"), ("theme", .null),
    ("username", .string "u")]

theorem older_layouts_read_olderMembers :
    decodeText Session.decoder (compact (.object olderMembers)) = .ok
      { token := some "t", username := some "u", permissions := .ofList ["A", "B"],
        acceptedTos := true } := by
  have yes : Text.Says "true" " TRUE\t" := isTrueText_iff.mp (by decide +kernel)
  have tags : ∀ t, t ∈ ["B", "A", "B"] ↔ t ∈ (TextSet.ofList ["A", "B"]).toList := by
    intro t
    rw [show (TextSet.ofList ["A", "B"]).toList = ["A", "B"] by decide +kernel]
    simp only [List.mem_cons, List.not_mem_nil, or_false]
    grind
  refine older_layouts_read.1 _ _ ⟨_, olderMembers.map fun m : String × Data => (m.1, m.2.tree),
    rfl, ⟨by decide +kernel, ?_⟩, writes_compact (.object olderMembers)⟩
  simp only [List.forall_mem_cons]
  refine ⟨.inr ⟨by decide, .null⟩, .inl ⟨_, ?_, .same _⟩, .inl ⟨_, ?_, .same _⟩,
    .inr ⟨by decide, .null⟩, .inl ⟨_, ?_, .texts tags⟩, .inr ⟨by decide, .noTexts⟩,
    .inl ⟨_, ?_, .word yes⟩, nofun⟩
  all_goals simp [olderMembers, Data.ofOption, Data.tree]

end AdminConsole
