import AdminConsole.Proofs.Json.Writer

/-!
# Decoding what was written

What the simple decoders make of data that was written, and how the members of an object fill the
fields of a record (`Record.Fills`). A record is taken field by field, in the order of its
constructor. -/

namespace AdminConsole.Json

namespace Decoder

theorem text_string (depth : Nat) (s : String) : text depth (Data.string s).tree = .ok s := rfl

theorem optional_text_ofOption (depth : Nat) (o : Option String) :
    optional text depth (Data.ofOption o).tree = .ok o := by
  cases o <;> rfl

theorem items_map {α : Type} {d : Decoder α} {data : α → Data} {depth : Nat}
    (read : ∀ a, d depth (data a).tree = .ok a) (as : List α) :
    items d depth (Data.itemsTree (as.map data)) = .ok as := by
  induction as with
  | nil => rfl
  | cons a as ih =>
    rw [List.map_cons, Data.itemsTree, items, read, ih]
    rfl

theorem textSet_texts (depth : Nat) (ss : List String) :
    textSet (depth + 2) (Data.ofTexts ss).tree = .ok (.ofList ss) := by
  have read : optional (list text) (depth + 2) (Data.ofTexts ss).tree = .ok (some ss) := by
    change (items text (depth + 1) (Data.itemsTree (ss.map .string))).map some = _
    rw [items_map (text_string (depth + 1))]
    rfl
  rw [textSet, read]
  rfl

theorem textSet_ofTexts (depth : Nat) (s : TextSet) :
    textSet (depth + 2) (Data.ofTexts s.toList).tree = .ok s :=
  (textSet_texts depth s.toList).trans (congrArg Except.ok s.ofList_toList)

theorem natural_natural (depth : Nat) {n : Nat} (fits : n ≤ Numeral.maxNatural) :
    natural depth (Data.natural n).tree = .ok n := by
  simp only [Data.tree, natural, Numeral.read_natural fits, bind, Except.bind]
  rfl

theorem flag_bool (depth : Nat) (b : Bool) : flag depth (Data.bool b).tree = .ok b := rfl

end Decoder

namespace Record

def membersOf : List (String × Value) → Members
  | [] => .close
  | (key, v) :: ms => .member (.ok key) v (membersOf ms)

/-- A name that no member has is not found. -/
theorem find?_eq_none_iff {found : List (String × Value)} {key : String} :
    find? found key = none ↔ key ∉ found.map Prod.fst := by
  induction found with
  | nil => simp [find?]
  | cons m found ih =>
    rw [find?, TextMap.lookup_cons, List.map_cons, List.mem_cons, not_or]
    split
    · next same => simp [same]
    · next other => exact ih.trans (and_iff_right other).symm

/-- A member whose name no other member has is found by its name. -/
theorem find?_of_count {ms : List (String × Value)} {m : String × Value} (hm : m ∈ ms)
    (once : (ms.map Prod.fst).count m.1 ≤ 1) : find? ms m.1 = some m.2 := by
  induction ms with
  | nil => exact nomatch hm
  | cons x ms ih =>
    rw [find?, TextMap.lookup_cons]
    rw [List.map_cons, List.count_cons] at once
    rcases List.mem_cons.mp hm with rfl | later
    · exact if_pos rfl
    · have there : 0 < (ms.map Prod.fst).count m.1 :=
        List.count_pos_iff.mpr (List.mem_map_of_mem later)
      have other : m.1 ≠ x.1 := by
        intro same
        rw [if_pos (by simp [same])] at once
        omega
      rw [if_neg other]
      exact ih later (by omega)

/-- A field is found by its name. -/
theorem find?_fields {fields : List FieldCheck} (nodup : (fields.map (·.name)).Nodup)
    {f : FieldCheck} (hf : f ∈ fields) : fields.find? (·.name == f.name) = some f := by
  induction fields with
  | nil => simp at hf
  | cons g fields ih =>
    rw [List.map_cons, List.nodup_cons] at nodup
    rcases List.mem_cons.mp hf with rfl | hf
    · rw [List.find?_cons_of_pos (by simp)]
    · have named : f.name ∈ fields.map (·.name) := List.mem_map_of_mem hf
      have other : g.name ≠ f.name := fun eq => nodup.1 (eq ▸ named)
      rw [List.find?_cons_of_neg (by simpa using other)]
      exact ih nodup.2 hf

/-! ### Members that are gone through -/

/-- No field is named twice, what stands under a field's name is read as the field, and anything
else can be passed over. -/
structure Takes (fields : List FieldCheck) (depth : Nat) (ms : List (String × Value)) : Prop where
  once : ∀ f ∈ fields, (ms.map Prod.fst).count f.name ≤ 1
  reads : ∀ m ∈ ms, ∀ f ∈ fields, f.name = m.1 → f.check depth m.2 = .ok ()
  passes : ∀ m ∈ ms, (∀ f ∈ fields, f.name ≠ m.1) → m.2.skip = .ok ()

/-- The members that stand under the names of fields. -/
def named (fields : List FieldCheck) (ms : List (String × Value)) : List (String × Value) :=
  ms.filter fun m => fields.any (·.name == m.1)

section gather

variable {fields : List FieldCheck} {depth : Nat} {key : String} {v : Value}
  {ms : List (String × Value)}

theorem takes_nil : Takes fields depth [] := ⟨by simp, by simp, by simp⟩

theorem takes_cons_other (other : ∀ f ∈ fields, f.name ≠ key) :
    Takes fields depth ((key, v) :: ms) ↔ v.skip = .ok () ∧ Takes fields depth ms := by
  have same : ∀ f ∈ fields, (((key, v) :: ms).map Prod.fst).count f.name =
      (ms.map Prod.fst).count f.name := fun f hf =>
    List.count_cons_of_ne (other f hf).symm
  constructor
  · rintro ⟨once, reads, passes⟩
    obtain ⟨first, passes⟩ := List.forall_mem_cons.mp passes
    exact ⟨first other, fun f hf => same f hf ▸ once f hf, (List.forall_mem_cons.mp reads).2, passes⟩
  · rintro ⟨skipped, once, reads, passes⟩
    refine ⟨fun f hf => (same f hf).symm ▸ once f hf, List.forall_mem_cons.mpr ⟨?_, reads⟩,
      List.forall_mem_cons.mpr ⟨fun _ => skipped, passes⟩⟩
    exact fun f hf eq => absurd eq (other f hf)

theorem takes_cons_field (nodup : (fields.map (·.name)).Nodup) {f : FieldCheck} (hf : f ∈ fields)
    (name : f.name = key) : Takes fields depth ((key, v) :: ms) ↔
      f.check depth v = .ok () ∧ key ∉ ms.map Prod.fst ∧ Takes fields depth ms := by
  subst name
  have only : ∀ g ∈ fields, g.name = f.name → g = f := fun g hg eq =>
    Option.some.inj ((find?_fields nodup hg).symm.trans (eq ▸ find?_fields nodup hf))
  constructor
  · rintro ⟨once, reads, passes⟩
    obtain ⟨first, reads⟩ := List.forall_mem_cons.mp reads
    have few := once f hf
    rw [List.map_cons, List.count_cons_self] at few
    refine ⟨first f hf rfl, List.count_eq_zero.mp (by omega), fun g hg => ?_, reads,
      (List.forall_mem_cons.mp passes).2⟩
    exact Nat.le_trans List.count_le_count_cons (once g hg)
  · rintro ⟨checked, absent, once, reads, passes⟩
    refine ⟨fun g hg => ?_, List.forall_mem_cons.mpr ⟨fun g hg eq => only g hg eq ▸ checked, reads⟩,
      List.forall_mem_cons.mpr ⟨fun other => absurd rfl (other f hf), passes⟩⟩
    rw [List.map_cons]
    by_cases same : g.name = f.name
    · have none := List.count_eq_zero.mpr absent
      rw [same, List.count_cons_self]
      omega
    · rw [List.count_cons_of_ne (Ne.symm same)]
      exact once g hg

theorem named_cons_field {f : FieldCheck} (hf : f ∈ fields) (name : f.name = key) :
    named fields ((key, v) :: ms) = (key, v) :: named fields ms :=
  List.filter_cons_of_pos (by simpa using ⟨f, hf, name⟩)

theorem named_cons_other (other : ∀ f ∈ fields, f.name ≠ key) :
    named fields ((key, v) :: ms) = named fields ms :=
  List.filter_cons_of_neg (by simpa using other)

theorem not_mem_iff_named {f : FieldCheck} (hf : f ∈ fields) (name : f.name = key) :
    key ∉ ms.map Prod.fst ↔ ∀ m ∈ named fields ms, m.1 ≠ key := by
  constructor
  · intro absent m hm same
    exact absent (same ▸ List.mem_map_of_mem (List.mem_filter.mp hm).1)
  · intro others there
    obtain ⟨m, hm, same⟩ := List.mem_map.mp there
    have isField : fields.any (·.name == m.1) :=
      List.any_eq_true.mpr ⟨f, hf, beq_iff_eq.mpr (name.trans same.symm)⟩
    exact others m (List.mem_filter.mpr ⟨hm, isField⟩) same

/-- **Going through the members keeps the fields among them, in their order.** -/
theorem gather_membersOf_iff (nodup : (fields.map (·.name)).Nodup) (depth : Nat)
    (ms found out : List (String × Value)) :
    gather fields depth found (membersOf ms) = .ok out ↔
      Takes fields depth ms ∧ (∀ m ∈ named fields ms, m.1 ∉ found.map Prod.fst) ∧
        out = found ++ named fields ms := by
  induction ms generalizing found with
  | nil => simp [membersOf, gather, takes_nil, named, eq_comm]
  | cons m ms ih =>
    obtain ⟨key, v⟩ := m
    cases isField : fields.find? (·.name == key) with
    | none =>
      have other : ∀ f ∈ fields, f.name ≠ key := by simpa using isField
      rw [takes_cons_other other, named_cons_other other, and_assoc, ← ih]
      simp only [membersOf, gather, bind, Except.bind, isField]
      cases v.skip <;> simp
    | some f =>
      have hf := List.mem_of_find?_eq_some isField
      have name : f.name = key := by simpa using List.find?_some isField
      rw [takes_cons_field nodup hf name, named_cons_field hf name, List.forall_mem_cons,
        not_mem_iff_named hf name]
      cases present : find? found key with
      | some x =>
        have there : ¬ key ∉ found.map Prod.fst := fun absent =>
          nomatch (find?_eq_none_iff.mpr absent).symm.trans present
        simp only [there, membersOf, gather, bind, Except.bind, isField, present]
        simp [throw, throwThe, MonadExceptOf.throw]
      | none =>
        have absent := find?_eq_none_iff.mp present
        have step : gather fields depth found (membersOf ((key, v) :: ms)) =
            f.check depth v >>= fun _ => gather fields depth (found ++ [(key, v)]) (membersOf ms) := by
          simp [membersOf, gather, bind, Except.bind, isField, present]
        rw [step]
        cases f.check depth v with
        | error c => simp [bind, Except.bind]
        | ok _ =>
          change gather fields depth (found ++ [(key, v)]) (membersOf ms) = .ok out ↔ _
          rw [ih, List.map_append, List.append_assoc]
          constructor
          · rintro ⟨takes, fresh, rfl⟩
            refine ⟨⟨rfl, fun m hm => ?_, takes⟩, ⟨absent, fun m hm => ?_⟩, rfl⟩
            · exact fun same => fresh m hm (List.mem_append_right _ (by simp [same]))
            · exact fun there => fresh m hm (List.mem_append_left _ there)
          · rintro ⟨⟨-, others, takes⟩, ⟨-, fresh⟩, rfl⟩
            refine ⟨takes, fun m hm there => ?_, rfl⟩
            rcases List.mem_append.mp there with there | there
            · exact fresh m hm there
            · exact others m hm (List.mem_singleton.mp there)

end gather

/-! ### Members that fill a record -/

/-- The members are the fields of the record in order, and the value is made of what is read under
them. -/
structure Fills {α : Type} (r : Record α) (depth : Nat) (ms : List (String × Value)) (a : α) :
    Prop where
  names : r.fields.map (·.name) = ms.map Prod.fst
  checks : ∀ m ∈ ms, ∃ f ∈ r.fields, f.name = m.1 ∧ f.check depth m.2 = .ok ()
  build : ∀ get : String → Option Value, (∀ m ∈ ms, get m.1 = some m.2) →
    r.build depth get = .ok a

namespace Fills

variable {α β : Type} {depth : Nat} {ms : List (String × Value)}

theorem nil (depth : Nat) (a : α) : Fills (pure a) depth [] a :=
  ⟨rfl, by simp, fun _ _ => rfl⟩

/-- One more field. -/
theorem seq {f : Record (α → β)} {g : α → β} (hf : Fills f depth ms g) {x : Record α}
    (check : FieldCheck) (only : x.fields = [check]) {v : Value} {a : α}
    (checked : check.check depth v = .ok ())
    (built : ∀ get : String → Option Value, get check.name = some v → x.build depth get = .ok a) :
    Fills (f <*> x) depth (ms ++ [(check.name, v)]) (g a) := by
  have fields : (f <*> x).fields = f.fields ++ [check] := congrArg (f.fields ++ ·) only
  refine ⟨?_, fun m hm => ?_, fun get found => ?_⟩
  · rw [fields, List.map_append, List.map_append, hf.names]
    rfl
  · rw [fields]
    rcases List.mem_append.mp hm with hm | hm
    · obtain ⟨check', there, known⟩ := hf.checks m hm
      exact ⟨check', List.mem_append_left _ there, known⟩
    · obtain rfl := List.mem_singleton.mp hm
      exact ⟨check, by simp, rfl, checked⟩
  · have before := hf.build get fun m hm => found m (List.mem_append_left _ hm)
    have last := built get (found (check.name, v) (by simp))
    change (do
      let g ← f.build depth get
      return g (← x.build depth get)) = _
    rw [before, last]
    rfl

theorem field {f : Record (α → β)} {g : α → β} (hf : Fills f depth ms g) (name : String)
    (default : α) {d : Decoder α} {v : Value} {a : α} (read : d depth v = .ok a) :
    Fills (f <*> Record.field name default d) depth (ms ++ [(name, v)]) (g a) := by
  refine hf.seq ⟨name, false, _⟩ rfl (congrArg discard read) fun get found => ?_
  simp only [Record.field, found, read]

theorem requiredField {f : Record (α → β)} {g : α → β} (hf : Fills f depth ms g) (name : String)
    {d : Decoder α} {v : Value} {a : α} (read : d depth v = .ok a) :
    Fills (f <*> Record.requiredField name d) depth (ms ++ [(name, v)]) (g a) := by
  refine hf.seq ⟨name, true, _⟩ rfl (congrArg discard read) fun get found => ?_
  simp only [Record.requiredField, found, read]

variable {r : Record α} {a : α}

/-- Nothing is missing, and nothing is left over. -/
theorem ofMembers (hr : Fills r depth ms a) (nodup : (r.fields.map (·.name)).Nodup) :
    Record.ofMembers r.fields depth (membersOf ms) = .ok ms := by
  have once := hr.names ▸ nodup
  have takes : Takes r.fields depth ms := by
    refine ⟨fun f _ => List.nodup_iff_count.mp once f.name, fun m hm f hf name => ?_,
      fun m hm other => ?_⟩
    · obtain ⟨g, hg, name', checked⟩ := hr.checks m hm
      have same := (find?_fields nodup hg).symm.trans (name'.trans name.symm ▸ find?_fields nodup hf)
      exact Option.some.inj same ▸ checked
    · obtain ⟨g, hg, name, -⟩ := hr.checks m hm
      exact absurd name (other g hg)
  have all : named r.fields ms = ms := List.filter_eq_self.mpr fun m hm => by
    obtain ⟨g, hg, name, -⟩ := hr.checks m hm
    exact List.any_eq_true.mpr ⟨g, hg, by simp [name]⟩
  have complete : firstMissing? r.fields ms = none := by
    rw [firstMissing?, Option.map_eq_none_iff, List.find?_eq_none]
    rintro ⟨f, i⟩ hf
    have named : f.name ∈ ms.map Prod.fst := by
      rw [← hr.names]
      exact List.mem_map_of_mem (List.fst_mem_of_mem_zipIdx hf)
    have found : find? ms f.name ≠ none := fun none => find?_eq_none_iff.mp none named
    simp [found]
  have gathered : gather r.fields depth [] (membersOf ms) = .ok ms :=
    (gather_membersOf_iff nodup depth ms [] ms).mpr ⟨takes, by simp, by rw [all]; rfl⟩
  simp only [Record.ofMembers, bind, Except.bind, gathered, complete]
  rfl

theorem built (hr : Fills r depth ms a) (nodup : (r.fields.map (·.name)).Nodup) :
    r.build depth (find? ms) = .ok a :=
  hr.build _ fun m hm =>
    find?_of_count hm (List.nodup_iff_count.mp (hr.names ▸ nodup) m.1)

/-- **An object of all the fields of a record is read as the record.** -/
theorem decoder_object {kind : String} (hr : Fills r (depth + 1) ms a)
    (nodup : (r.fields.map (·.name)).Nodup) :
    r.decoder kind (depth + 2) (.object (membersOf ms)) = .ok a := by
  change (Record.ofMembers r.fields (depth + 1) (membersOf ms) >>= fun found =>
    r.build (depth + 1) (find? found)) = _
  rw [hr.ofMembers nodup]
  exact hr.built nodup

end Fills

end Record

end AdminConsole.Json
