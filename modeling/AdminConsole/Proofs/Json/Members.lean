import AdminConsole.Proofs.Json.Record

/-!
# Objects with members in any order

A record is open if each of its fields may be left out and it is built of what stands under the
names of its fields (`IsOpen`). An object is read as such a record if and only if no field is named
twice, what has another name can be passed over, and the record can be built
(`IsOpen.decoder_object_iff`): the order of the members plays no part. One member more, under the
name of a field that was left out, leaves the others as they were, unless it is refused
(`IsOpen.decoder_insert`, `IsOpen.decoder_insert_error`). -/

namespace AdminConsole.Json.Record

variable {α β : Type} {depth : Nat} {get get' : String → Option Value}

/-! ### What a record is built of -/

/-- What stands under a name is read, or nothing stands there and the value is the default. -/
def ReadsAs (d : Decoder α) (default : α) (depth : Nat) : Option Value → α → Prop
  | some v, a => d depth v = .ok a
  | none, a => default = a

theorem map_eq_seq (f : α → β) (x : Record α) : f <$> x = pure f <*> x := rfl

theorem build_pure_iff {x a : α} : (pure x : Record α).build depth get = .ok a ↔ x = a := by
  change Except.ok x = Except.ok a ↔ _
  rw [Except.ok.injEq]

theorem build_seq_iff {f : Record (α → β)} {x : Record α} {b : β} :
    (f <*> x).build depth get = .ok b ↔
      ∃ g a, f.build depth get = .ok g ∧ x.build depth get = .ok a ∧ g a = b := by
  change (do
    let g ← f.build depth get
    return g (← x.build depth get)) = _ ↔ _
  cases f.build depth get with
  | error c => simp [bind, Except.bind]
  | ok g => cases x.build depth get <;> simp [bind, Except.bind, pure, Except.pure]

theorem build_field_iff {name : String} {default a : α} {d : Decoder α} :
    (field name default d).build depth get = .ok a ↔ ReadsAs d default depth (get name) a := by
  simp only [field]
  cases get name with
  | some v => rfl
  | none => exact ⟨Except.ok.inj, congrArg Except.ok⟩

/-! ### Open records -/

/-- Nothing is required, what the record is built of passes the fields' checks, and it is built of
nothing else. -/
structure IsOpen (r : Record α) : Prop where
  optional : ∀ f ∈ r.fields, f.required = false
  checks : ∀ {depth : Nat} {get : String → Option Value} {a : α}, r.build depth get = .ok a →
    ∀ f ∈ r.fields, ∀ v, get f.name = some v → f.check depth v = .ok ()
  congr : ∀ {depth : Nat} {get get' : String → Option Value},
    (∀ f ∈ r.fields, get f.name = get' f.name) → r.build depth get = r.build depth get'

theorem isOpen_pure (a : α) : (pure a : Record α).IsOpen :=
  ⟨nofun, fun _ => nofun, fun _ => rfl⟩

theorem isOpen_field (name : String) (default : α) (d : Decoder α) :
    (field name default d).IsOpen := by
  refine ⟨?_, ?_, ?_⟩
  · intro f hf
    obtain rfl := List.mem_singleton.mp hf
    rfl
  · intro depth get a built f hf v there
    obtain rfl := List.mem_singleton.mp hf
    have read := build_field_iff.mp built
    rw [show get name = some v from there] at read
    exact congrArg discard read
  · intro depth get get' same
    have under : get name = get' name := same _ (List.mem_singleton_self _)
    simp only [field, under]

theorem IsOpen.seq {f : Record (α → β)} {x : Record α} (hf : f.IsOpen) (hx : x.IsOpen) :
    (f <*> x).IsOpen := by
  have fields : (f <*> x).fields = f.fields ++ x.fields := rfl
  refine ⟨?_, ?_, ?_⟩
  · rw [fields]
    exact List.forall_mem_append.mpr ⟨hf.optional, hx.optional⟩
  · intro depth get b built
    obtain ⟨g, a, first, last, -⟩ := build_seq_iff.mp built
    rw [fields]
    exact List.forall_mem_append.mpr ⟨hf.checks first, hx.checks last⟩
  · intro depth get get' same
    rw [fields, List.forall_mem_append] at same
    change (do
      let g ← f.build depth get
      return g (← x.build depth get)) = _
    rw [hf.congr same.1, hx.congr same.2]
    rfl

/-! ### Objects -/

section objects

variable {fields : List FieldCheck} {ms ms' : List (String × Value)} {key : String} {v : Value}

theorem find?_append_of_not_mem (absent : key ∉ ms.map Prod.fst) :
    find? (ms ++ ms') key = find? ms' key := by
  induction ms with
  | nil => rfl
  | cons m ms ih =>
    rw [List.map_cons, List.mem_cons, not_or] at absent
    rw [List.cons_append, find?, TextMap.lookup_cons, if_neg absent.1]
    exact ih absent.2

/-- What stands under the name of a field is found among the fields. -/
theorem find?_named {f : FieldCheck} (hf : f ∈ fields) :
    find? (named fields ms) f.name = find? ms f.name := by
  induction ms with
  | nil => rfl
  | cons m ms ih =>
    obtain ⟨key, v⟩ := m
    have first : find? ((key, v) :: ms) f.name = if f.name = key then some v else find? ms f.name :=
      TextMap.lookup_cons ..
    rw [first]
    by_cases same : f.name = key
    · rw [named_cons_field hf same, find?, TextMap.lookup_cons, if_pos same, if_pos same]
    · have kept :
          find? (named fields ((key, v) :: ms)) f.name = find? (named fields ms) f.name := by
        rw [named, List.filter_cons]
        split
        · rw [find?, TextMap.lookup_cons, if_neg same]
          rfl
        · rfl
      rw [kept, ih, if_neg same]

/-- The members are gone through part by part. -/
theorem gather_append (depth : Nat) (ms ms' found : List (String × Value)) :
    gather fields depth found (membersOf (ms ++ ms')) =
      gather fields depth found (membersOf ms) >>= fun found' =>
        gather fields depth found' (membersOf ms') := by
  induction ms generalizing found with
  | nil => rfl
  | cons m ms ih =>
    obtain ⟨key, v⟩ := m
    simp only [List.cons_append, membersOf, gather, bind, Except.bind]
    split
    · split
      · rfl
      · next f _ _ =>
        cases f.check depth v with
        | error c => rfl
        | ok _ => exact ih _
    · cases v.skip with
      | error c => rfl
      | ok _ => exact ih _

/-- Nothing is missing from a record of which nothing is required. -/
theorem firstMissing?_eq_none (optional : ∀ f ∈ fields, f.required = false)
    (found : List (String × Value)) : firstMissing? fields found = none := by
  rw [firstMissing?, Option.map_eq_none_iff, List.find?_eq_none]
  rintro ⟨f, i⟩ hf
  simp [optional f (List.fst_mem_of_mem_zipIdx hf)]

/-- The members are gone through, and then the record is built. -/
theorem IsOpen.decoder_object {r : Record α} (hr : r.IsOpen) (kind : String) (depth : Nat)
    (ms : List (String × Value)) : r.decoder kind (depth + 2) (.object (membersOf ms)) =
      gather r.fields (depth + 1) [] (membersOf ms) >>= fun found =>
        r.build (depth + 1) (find? found) := by
  change (ofMembers r.fields (depth + 1) (membersOf ms) >>= fun found => _) = _
  simp only [ofMembers, firstMissing?_eq_none hr.optional]
  cases gather r.fields (depth + 1) [] (membersOf ms) <;> rfl

/-- **What it takes for an object to be read as an open record.** -/
theorem IsOpen.decoder_object_iff {r : Record α} (hr : r.IsOpen)
    (nodup : (r.fields.map (·.name)).Nodup) {kind : String} {a : α} :
    r.decoder kind (depth + 2) (.object (membersOf ms)) = .ok a ↔
      (∀ f ∈ r.fields, (ms.map Prod.fst).count f.name ≤ 1) ∧
      (∀ m ∈ ms, (∀ f ∈ r.fields, f.name ≠ m.1) → m.2.skip = .ok ()) ∧
      r.build (depth + 1) (find? ms) = .ok a := by
  have built : r.build (depth + 1) (find? (named r.fields ms)) = r.build (depth + 1) (find? ms) :=
    hr.congr fun f hf => find?_named hf
  rw [hr.decoder_object]
  constructor
  · intro decoded
    cases went : gather r.fields (depth + 1) [] (membersOf ms) with
    | error c =>
      rw [went] at decoded
      exact nomatch decoded
    | ok found =>
      obtain ⟨takes, -, rfl⟩ := (gather_membersOf_iff nodup _ _ _ _).mp went
      rw [went] at decoded
      exact ⟨takes.once, takes.passes, built ▸ decoded⟩
  · rintro ⟨once, passes, decoded⟩
    have takes : Takes r.fields (depth + 1) ms := by
      refine ⟨once, fun m hm f hf name => ?_, passes⟩
      exact hr.checks decoded f hf m.2 (name ▸ find?_of_count hm (name ▸ once f hf))
    rw [(gather_membersOf_iff nodup _ ms [] _).mpr ⟨takes, by simp, rfl⟩]
    exact built.trans decoded

end objects

/-! ### One member more -/

section insertion

variable {before after : List (String × Value)} {key name : String} {v : Value}

theorem find?_insert_self (absent : key ∉ before.map Prod.fst) :
    find? (before ++ (key, v) :: after) key = some v := by
  rw [find?_append_of_not_mem absent, find?, TextMap.lookup_cons, if_pos rfl]

theorem find?_insert_of_ne (other : name ≠ key) :
    find? (before ++ (key, v) :: after) name = find? (before ++ after) name := by
  induction before with
  | nil =>
    rw [List.nil_append, find?, TextMap.lookup_cons, if_neg other]
    rfl
  | cons m before ih =>
    rw [List.cons_append, List.cons_append, find?, find?, TextMap.lookup_cons, TextMap.lookup_cons]
    split
    · rfl
    · exact ih

variable {r : Record α} {f : FieldCheck} {kind : String}

/-- A member under the name of a field that was left out leaves every other member as it was. -/
theorem IsOpen.decoder_insert (hr : r.IsOpen) (nodup : (r.fields.map (·.name)).Nodup)
    (hf : f ∈ r.fields) (absent : f.name ∉ (before ++ after).map Prod.fst) {a a' : α}
    (decoded : r.decoder kind (depth + 2) (.object (membersOf (before ++ after))) = .ok a)
    (built : r.build (depth + 1) (find? (before ++ after)) = .ok a →
      r.build (depth + 1) (find? (before ++ (f.name, v) :: after)) = .ok a') :
    r.decoder kind (depth + 2) (.object (membersOf (before ++ (f.name, v) :: after))) = .ok a' := by
  obtain ⟨once, passes, bare⟩ := (hr.decoder_object_iff nodup).mp decoded
  have inserted : List.Perm (before ++ (f.name, v) :: after) ((f.name, v) :: (before ++ after)) :=
    List.perm_middle
  refine (hr.decoder_object_iff nodup).mpr ⟨fun g hg => ?_, fun m hm other => ?_, built bare⟩
  · rw [(inserted.map Prod.fst).count_eq, List.map_cons]
    by_cases same : g.name = f.name
    · have none := List.count_eq_zero.mpr absent
      rw [same, List.count_cons_self]
      omega
    · rw [List.count_cons_of_ne (Ne.symm same)]
      exact once g hg
  · rcases List.mem_cons.mp (inserted.mem_iff.mp hm) with rfl | there
    · exact absurd rfl (other f hf)
    · exact passes m there other

/-- What the field refuses is refused, whatever comes after it. -/
theorem IsOpen.decoder_insert_error (hr : r.IsOpen) (nodup : (r.fields.map (·.name)).Nodup)
    (hf : f ∈ r.fields) (absent : f.name ∉ (before ++ after).map Prod.fst) {a : α} {c : Cause}
    (decoded : r.decoder kind (depth + 2) (.object (membersOf (before ++ after))) = .ok a)
    (refused : f.check (depth + 1) v = .error c) :
    r.decoder kind (depth + 2) (.object (membersOf (before ++ (f.name, v) :: after))) =
      .error c := by
  rw [hr.decoder_object, gather_append] at decoded ⊢
  cases went : gather r.fields (depth + 1) [] (membersOf before) with
  | error c =>
    rw [went] at decoded
    exact nomatch decoded
  | ok found =>
    obtain ⟨-, -, rfl⟩ := (gather_membersOf_iff nodup _ _ _ _).mp went
    rw [List.map_append, List.mem_append, not_or] at absent
    have unseen : find? (named r.fields before) f.name = none :=
      (find?_named hf).trans (find?_eq_none_iff.mpr absent.1)
    simp [membersOf, gather, bind, Except.bind, find?_fields nodup hf, unseen, refused]

end insertion

end AdminConsole.Json.Record
