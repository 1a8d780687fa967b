import AdminConsole.Proofs.Url.Domain
import AdminConsole.Proofs.Url.Path
import AdminConsole.Url.Parse

/-!
# Plain URLs

A URL of the web whose host is a name of small letters, with a plain path and a query and a fragment
in the characters of a form, is read as the parts that it was put together from
(`Url.IsPlace.parse_marked`). -/

namespace AdminConsole.Url

/-! ### Texts that are cut -/

variable {mark : Char} {cs front back : List Char}

theorem beq_of_not_mem (h : mark ∉ cs) : ∀ c ∈ cs, (c == mark) = false := by
  rintro c hc
  rw [beq_eq_false_iff_ne]
  rintro rfl
  exact h hc

theorem cutMark_of_not_mem (h : mark ∉ cs) : cutMark mark cs = (cs, none) := by
  rw [cutMark, Text.cutAt?_eq_none (beq_of_not_mem h)]

theorem cutMark_append (h : mark ∉ front) :
    cutMark mark (front ++ mark :: back) = (front, some back) := by
  rw [cutMark, Text.cutAt?_append_cons (beq_of_not_mem h) (beq_self_eq_true mark)]

theorem fst_cutMark (mark : Char) (cs : List Char) :
    (cutMark mark cs).1 = cs.takeWhile (fun c => !(c == mark)) := by
  have cut := Text.getD_cutAt? (· == mark) cs
  rw [cutMark]
  split
  · next found =>
    rw [found] at cut
    exact congrArg Prod.fst cut
  · next none =>
    rw [none] at cut
    exact congrArg Prod.fst cut

/-- A query and a fragment, each after its mark if it is there. -/
def marked (query fragment : Option (List Char)) : List Char :=
  query.elim [] ('?' :: ·) ++ fragment.elim [] ('#' :: ·)

section marks

variable {query fragment : Option (List Char)}

theorem marked_query (cs : List Char) : marked (some cs) none = '?' :: cs := List.append_nil _

theorem marked_fragment (cs : List Char) : marked none (some cs) = '#' :: cs := rfl

theorem marked_none (query : Option (List Char)) : marked query none = query.elim [] ('?' :: ·) :=
  List.append_nil _

theorem cutMark_fragment (front_unmarked : '#' ∉ front) (formed : Form.IsForm query)
    (fragment : Option (List Char)) :
    cutMark '#' (front ++ marked query fragment) = (front ++ marked query none, fragment) := by
  have before : '#' ∉ front ++ marked query none := by
    rw [marked_none, List.mem_append, not_or]
    refine ⟨front_unmarked, fun mem => ?_⟩
    cases query with
    | none => exact absurd mem List.not_mem_nil
    | some cs =>
      rcases List.mem_cons.mp mem with mark | mem
      · exact absurd mark (by decide)
      · exact absurd (formed cs rfl '#' mem) (by decide)
  cases fragment with
  | none => exact cutMark_of_not_mem before
  | some after =>
    have whole : front ++ marked query (some after) =
        (front ++ marked query none) ++ '#' :: after := by
      rw [marked_none, marked, Option.elim_some, List.append_assoc]
    rw [whole, cutMark_append before]

theorem cutMark_query (front_unmarked : '?' ∉ front) (query : Option (List Char)) :
    cutMark '?' (front ++ marked query none) = (front, query) := by
  rw [marked_none]
  cases query with
  | none => rw [Option.elim_none, List.append_nil, cutMark_of_not_mem front_unmarked]
  | some cs => exact cutMark_append front_unmarked

theorem mem_marked (formedQuery : Form.IsForm query) (formedFragment : Form.IsForm fragment)
    {c : Char} (mem : c ∈ marked query fragment) :
    c = '?' ∨ c = '#' ∨ Form.isFormChar c = true := by
  rcases List.mem_append.mp mem with mem | mem
  · cases query with
    | none => exact absurd mem List.not_mem_nil
    | some cs => exact (List.mem_cons.mp mem).imp_right fun mem => .inr (formedQuery cs rfl c mem)
  · cases fragment with
    | none => exact absurd mem List.not_mem_nil
    | some cs => exact .inr ((List.mem_cons.mp mem).imp_right (formedFragment cs rfl c))

theorem isBlank_of_mem_marked (formedQuery : Form.IsForm query)
    (formedFragment : Form.IsForm fragment) {c : Char} (mem : c ∈ marked query fragment) :
    Text.isBlank c = false := by
  rcases mem_marked formedQuery formedFragment mem with rfl | rfl | formed
  · decide
  · decide
  · exact Form.isBlank_of_isFormChar formed

end marks

/-- A text that starts with a slash has no scheme. -/
theorem parse_of_slash {text : String} (h : text.toList = '/' :: cs) :
    parse text = .error .noScheme := by
  have stripped : Text.stripChars isEdge text.toList = '/' :: Text.dropEndWhile isEdge cs := by
    have slash : ∀ c ∈ ['/'].getLast?, isEdge c = false := by simp [isEdge]
    rw [h, Text.stripChars, List.dropWhile_cons_of_neg (by decide)]
    exact Text.dropEndWhile_append_of_last slash
  have noScheme : ∀ ds, cutScheme? ('/' :: ds) = none := by
    intro ds
    rw [cutScheme?, List.dropWhile_cons_of_neg (by decide)]
    rfl
  rw [parse, stripped, List.filter_cons_of_pos (by decide), noScheme]
  rfl

/-! ### The scheme -/

/-- A scheme of the web that a backend can have. -/
def IsWebScheme (scheme : String) : Prop := scheme = "http" ∨ scheme = "https"

theorem IsWebScheme.letters {scheme : String} (web : IsWebScheme scheme) :
    ∀ c ∈ scheme.toList, isLetter c = true := by
  rcases web with rfl | rfl <;> exact List.all_eq_true.mp (by decide)

theorem cutScheme?_append {scheme : String} (web : IsWebScheme scheme) (cs : List Char) :
    cutScheme? (scheme.toList ++ ':' :: cs) = some (scheme, cs) := by
  obtain ⟨all, letter, small⟩ : scheme.toList.all isSchemeChar = true ∧
      scheme.toList.head?.any Char.isAlpha = true ∧ Text.toAsciiLower scheme = scheme := by
    rcases web with rfl | rfl <;> decide +kernel
  have chars : ∀ c ∈ scheme.toList, isSchemeChar c = true := List.all_eq_true.mp all
  have first : (scheme.toList ++ ':' :: cs).head?.any Char.isAlpha = true := by
    cases start : scheme.toList with
    | nil =>
      rw [start] at letter
      exact nomatch letter
    | cons c rest =>
      rw [start] at letter
      exact letter
  have before : (scheme.toList ++ ':' :: cs).takeWhile isSchemeChar = scheme.toList := by
    rw [List.takeWhile_append_of_pos chars, List.takeWhile_cons_of_neg (by decide), List.append_nil]
  have after : (scheme.toList ++ ':' :: cs).dropWhile isSchemeChar = ':' :: cs := by
    rw [List.dropWhile_append_of_pos chars, List.dropWhile_cons_of_neg (by decide)]
  rw [cutScheme?, after]
  simp only [first, if_true, before, String.ofList_toList, small]

/-- Nothing of a text without blanks and controls is passed over. -/
theorem strip_of_above (h : ∀ c ∈ cs, 0x20 < c.toNat) :
    (Text.stripChars isEdge cs).filter (!isBreak ·) = cs := by
  have inside : ∀ c ∈ cs, isEdge c = false := fun c mem =>
    decide_eq_false (Nat.not_le_of_lt (h c mem))
  have unbroken : ∀ c ∈ cs, (!isBreak c) = true := by
    intro c mem
    rw [Bool.not_eq_true']
    by_contra broken
    simp only [isBreak, Bool.not_eq_false, Bool.or_eq_true, beq_iff_eq] at broken
    have above := h c mem
    rcases broken with (rfl | rfl) | rfl <;> exact absurd above (by decide)
  rw [Text.stripChars_of_ends (fun c mem => inside c (List.mem_of_mem_head? mem))
    fun c mem => inside c (List.mem_of_mem_getLast? mem), List.filter_eq_self.mpr unbroken]

/-! ### The authority -/

section authority

variable {host path : List Char} {c : Char}

/-- No letter has a meaning in an authority. -/
theorem letter_ne {mark : Char} (h : isLetter c = true) (other : isLetter mark = false) :
    c ≠ mark := by
  rintro rfl
  exact Bool.false_ne_true (other.symm.trans h)

theorem not_mem_letters {mark : Char} (letters : ∀ c ∈ host, isLetter c = true)
    (other : isLetter mark = false) : mark ∉ host :=
  fun mem => letter_ne (letters mark mem) other rfl

theorem hostLength_of_letters (letters : ∀ c ∈ host, isLetter c = true) :
    hostLength false host = host.length := by
  induction host with
  | nil => rfl
  | cons c host ih =>
    rw [List.forall_mem_cons] at letters
    have noColon : c ≠ ':' := letter_ne letters.1 (by decide)
    have noBracket : (c == '[') = false := beq_eq_false_iff_ne.mpr (letter_ne letters.1 (by decide))
    simp [hostLength, noColon, noBracket, ih letters.2]

theorem not_isSeparator_of_isLetter (h : isLetter c = true) :
    (!UrlPath.isSeparator true c) = true := by
  have noSlash : c ≠ '/' := letter_ne h (by decide)
  have noBackslash : c ≠ '\\' := letter_ne h (by decide)
  simp [UrlPath.isSeparator, noSlash, noBackslash]

/-- The authority of a name alone. -/
def named (host : List Char) : Authority := ⟨"", none, some (.domain (String.ofList host)), none⟩

/-- A name alone before a path is the host. -/
theorem parseAuthority_of_letters {scheme : String} {more : Bool}
    (letters : ∀ c ∈ host, isLetter c = true) (nonempty : host ≠ []) (path : List Char) :
    parseAuthority .web scheme more (host ++ '/' :: path) = .ok (named host, '/' :: path) := by
  have inside : ∀ c ∈ host, (!UrlPath.isSeparator true c) = true := fun c mem =>
    not_isSeparator_of_isLetter (letters c mem)
  have place : (host ++ '/' :: path).takeWhile (!UrlPath.isSeparator true ·) = host := by
    rw [List.takeWhile_append_of_pos inside, List.takeWhile_cons_of_neg (by decide),
      List.append_nil]
  have after : (host ++ '/' :: path).dropWhile (!UrlPath.isSeparator true ·) = '/' :: path := by
    rw [List.dropWhile_append_of_pos inside, List.dropWhile_cons_of_neg (by decide)]
  have noUser : cutUser host = (none, host) := by
    rw [cutUser, Text.cutAt?_eq_none (beq_of_not_mem fun mem =>
      not_mem_letters letters (by decide) (List.mem_reverse.mp mem))]
  have parsed : parseHost .web host = .ok (.domain (String.ofList host)) := by
    rw [parseHost, Host.parse_of_letters letters nonempty]
    simp [SchemeKind.isSpecial, nonempty]
  have special : SchemeKind.web.isSpecial = true := rfl
  have domain : Host.domain (String.ofList host) ≠ .domain "" := by simp [nonempty]
  have noName : parseUser [] = ("", none) := by decide +kernel
  have noPort : parsePort scheme [] = .ok (none, []) := by simp [parsePort, Host.digitsToNat]
  have rest : host.drop host.length = [] ∧ host.drop (host.length + 1) = [] := by simp
  unfold parseAuthority
  simp only [special, place, after, noUser, hostLength_of_letters letters, List.take_length, parsed,
    Option.getD_none, noName, noPort, rest.1, rest.2]
  simp only [Option.none_beq_some, Bool.false_and, List.isEmpty_cons, Bool.not_false, Bool.or_true,
    Bool.and_true, Bool.false_eq_true, if_false, bne_self_eq_false, Option.isSome_none,
    Bool.or_self, List.isEmpty_nil, Bool.not_true, Bool.and_false, bind_pure_comp, Except.map_ok,
    List.nil_append]
  change Except.ok (Authority.mk "" none (if Host.domain (String.ofList host) = .domain "" then none
    else some (.domain (String.ofList host))) none, '/' :: path) = _
  rw [if_neg domain]
  rfl

theorem parseWeb_of_letters {scheme : String} {more : Bool} {t : List Char} {ts : List (List Char)}
    (letters : ∀ c ∈ host, isLetter c = true) (nonempty : host ≠ []) (ht : UrlPath.IsFixed t)
    (hts : ∀ t ∈ ts, UrlPath.IsFixed t) :
    parseWeb scheme more ('/' :: '/' :: (host ++ UrlPath.join (t :: ts))) =
      .ok (some (named host), UrlPath.join (t :: ts)) := by
  have front : ('/' :: '/' :: (host ++ UrlPath.join (t :: ts))).dropWhile
      (UrlPath.isSeparator true) = host ++ '/' :: (t ++ UrlPath.join ts) := by
    rw [List.dropWhile_cons_of_pos (by rfl), List.dropWhile_cons_of_pos (by rfl)]
    refine Text.dropWhile_of_head fun c mem => ?_
    have first : c ∈ host := by
      cases host with
      | nil => exact absurd rfl nonempty
      | cons c' rest => exact Option.some.inj mem ▸ List.mem_cons_self
    simpa using not_isSeparator_of_isLetter (letters c first)
  rw [parseWeb, front, parseAuthority_of_letters letters nonempty]
  change Except.ok (some (named host), UrlPath.ofText true false (t ++ UrlPath.join ts)) = _
  rw [UrlPath.ofText_join true ht hts]

end authority

/-! ### Whole URLs -/

section whole

variable {scheme : String} {host params : List Char} {ts : List (List Char)}

/-- What follows the scheme, up to the parameters. -/
def hierarchy (host : List Char) (ts : List (List Char)) : List Char :=
  '/' :: '/' :: (host ++ UrlPath.join ts)

/-- The text of a URL up to its parameters. -/
def place (scheme : String) (host : List Char) (ts : List (List Char)) : List Char :=
  scheme.toList ++ ':' :: hierarchy host ts

/-- What a URL is put together from, its parameters apart. -/
structure IsPlace (scheme : String) (host : List Char) (ts : List (List Char)) : Prop where
  web : IsWebScheme scheme
  letters : ∀ c ∈ host, isLetter c = true
  hasHost : host ≠ []
  segments : ∀ t ∈ ts, UrlPath.IsFixed t
  hasSegment : ts ≠ []

/-- What a plain URL is put together from. -/
structure IsPlain (scheme : String) (host : List Char) (ts : List (List Char))
    (params : List Char) : Prop where
  web : IsWebScheme scheme
  letters : ∀ c ∈ host, isLetter c = true
  hasHost : host ≠ []
  segments : ∀ t ∈ ts, UrlPath.IsPlain t
  hasSegment : ts ≠ []
  written : ∀ c ∈ params, Form.isPairChar c = true

theorem IsPlain.isPlace (h : IsPlain scheme host ts params) : IsPlace scheme host ts :=
  ⟨h.web, h.letters, h.hasHost, fun t mem => (h.segments t mem).isFixed, h.hasSegment⟩

theorem IsPlain.isForm (h : IsPlain scheme host ts params) : Form.IsForm (some params) :=
  Form.isForm_some fun c mem => Form.isFormChar_of_isPairChar (h.written c mem)

/-- The character has no meaning at the edges of a URL or as a mark in it. -/
def IsInner (c : Char) : Prop := 0x20 < c.toNat ∧ c ≠ '#' ∧ c ≠ '?'

theorem isInner_of_isFormChar {c : Char} (h : Form.isFormChar c = true) :
    IsInner c ∧ isQuerySpecial .web c = false ∧ isFragmentSpecial c = false :=
  Text.forall_ascii (P := fun c => Form.isFormChar c = true → (0x20 < c.toNat ∧ c ≠ '#' ∧ c ≠ '?') ∧
    isQuerySpecial .web c = false ∧ isFragmentSpecial c = false) (by decide)
    (Form.toNat_lt_of_isFormChar h) h

theorem isInner_of_isLetter {c : Char} (h : isLetter c = true) : IsInner c :=
  ⟨Nat.lt_of_lt_of_le (by decide) (toNat_of_isLetter h).1, letter_ne h (by decide),
    letter_ne h (by decide)⟩

/-- A path is written in ASCII characters without a meaning of their own. -/
theorem of_mem_join (segments : ∀ t ∈ ts, UrlPath.IsFixed t) :
    ∀ c ∈ UrlPath.join ts, IsInner c ∧ c.toNat < 128 := by
  intro c mem
  obtain ⟨t, ht, mem⟩ := List.mem_flatMap.mp mem
  rcases List.mem_cons.mp mem with rfl | mem
  · exact ⟨⟨by decide, by decide, by decide⟩, by decide⟩
  · obtain ⟨ascii, plain, -⟩ := (segments t ht).chars c mem
    refine ⟨⟨?_, ?_, ?_⟩, ascii⟩
    · simp only [UrlPath.isSpecial, Bool.or_eq_false_iff, decide_eq_false_iff_not] at plain
      exact Nat.lt_of_not_le plain.1.1
    · rintro rfl
      exact absurd plain (by decide)
    · rintro rfl
      exact absurd plain (by decide)

theorem IsPlace.of_mem_place (h : IsPlace scheme host ts) :
    ∀ c ∈ place scheme host ts, IsInner c ∧ c.toNat < 128 := by
  intro c mem
  simp only [place, hierarchy, List.mem_append, List.mem_cons] at mem
  have letter : isLetter c = true → IsInner c ∧ c.toNat < 128 := fun letter =>
    ⟨isInner_of_isLetter letter, toNat_lt_of_isLetter letter⟩
  rcases mem with mem | rfl | rfl | rfl | mem | mem
  · exact letter (h.web.letters c mem)
  · exact ⟨⟨by decide, by decide, by decide⟩, by decide⟩
  · exact ⟨⟨by decide, by decide, by decide⟩, by decide⟩
  · exact ⟨⟨by decide, by decide, by decide⟩, by decide⟩
  · exact letter (h.letters c mem)
  · exact of_mem_join h.segments c mem

theorem IsPlace.parseWeb_eq (h : IsPlace scheme host ts) (more : Bool) :
    parseWeb scheme more (hierarchy host ts) = .ok (some (named host), UrlPath.join ts) := by
  cases ts with
  | nil => exact absurd rfl h.hasSegment
  | cons t ts =>
    have segments := List.forall_mem_cons.mp h.segments
    exact parseWeb_of_letters h.letters h.hasHost segments.1 segments.2

theorem IsWebScheme.kind (web : IsWebScheme scheme) : SchemeKind.ofScheme scheme = .web := by
  rcases web with rfl | rfl <;> decide

theorem IsPlace.not_mem_hierarchy (h : IsPlace scheme host ts) :
    '#' ∉ hierarchy host ts ∧ '?' ∉ hierarchy host ts := by
  have within : ∀ c ∈ hierarchy host ts, IsInner c := fun c mem =>
    (h.of_mem_place c (List.mem_append_right _ (List.mem_cons_of_mem _ mem))).1
  exact ⟨fun mem => (within _ mem).2.1 rfl, fun mem => (within _ mem).2.2 rfl⟩

theorem encodeQuery_of_isForm {query : Option (List Char)} (formed : Form.IsForm query) :
    query.map (encodeQuery .web) = query.map String.ofList := by
  cases query with
  | none => rfl
  | some cs =>
    rw [Option.map_some, encodeQuery, Percent.encode_eq_self fun c mem =>
      ⟨Form.toNat_lt_of_isFormChar (formed cs rfl c mem),
        (isInner_of_isFormChar (formed cs rfl c mem)).2.1⟩, Option.map_some]

theorem encodeFragment_of_isForm {fragment : Option (List Char)} (formed : Form.IsForm fragment) :
    fragment.map encodeFragment = fragment.map String.ofList := by
  cases fragment with
  | none => rfl
  | some cs =>
    rw [Option.map_some, encodeFragment, Percent.encode_eq_self fun c mem =>
      ⟨Form.toNat_lt_of_isFormChar (formed cs rfl c mem),
        (isInner_of_isFormChar (formed cs rfl c mem)).2.2⟩, Option.map_some]

/-- **A URL with a query and a fragment is read as its parts.** -/
theorem IsPlace.parse_marked (h : IsPlace scheme host ts) {query fragment : Option (List Char)}
    (formedQuery : Form.IsForm query) (formedFragment : Form.IsForm fragment) :
    parse (String.ofList (place scheme host ts ++ marked query fragment)) =
      .ok ⟨scheme, some (named host), String.ofList (UrlPath.join ts), query.map String.ofList,
        fragment.map String.ofList⟩ := by
  have above : ∀ c ∈ place scheme host ts ++ marked query fragment, 0x20 < c.toNat := by
    intro c mem
    rcases List.mem_append.mp mem with mem | mem
    · exact (h.of_mem_place c mem).1.1
    · rcases mem_marked formedQuery formedFragment mem with rfl | rfl | formed
      · decide
      · decide
      · exact (isInner_of_isFormChar formed).1.1
  have cut : cutScheme? (place scheme host ts ++ marked query fragment) =
      some (scheme, hierarchy host ts ++ marked query fragment) := by
    rw [place, List.append_assoc, List.cons_append, cutScheme?_append h.web]
  rw [parse, String.toList_ofList, strip_of_above above, cut]
  simp only [cutMark_fragment h.not_mem_hierarchy.1 formedQuery,
    cutMark_query h.not_mem_hierarchy.2, h.web.kind, h.parseWeb_eq,
    encodeQuery_of_isForm formedQuery, encodeFragment_of_isForm formedFragment]
  rfl

end whole

end AdminConsole.Url
