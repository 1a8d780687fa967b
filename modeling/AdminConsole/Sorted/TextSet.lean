/-!
# Sets of strings

A set is the list of its members in the order of their code points, each once, so equal sets are
equal values and a set is listed in one way only. `mem_insert` and `eq_of_mem_iff` are the two
laws that everything else about sets follows from. -/

namespace AdminConsole

structure TextSet where
  toList : List String
  sorted : toList.Pairwise (· < ·)
  deriving DecidableEq

namespace TextSet

def insertInto (t : String) : List String → List String
  | [] => [t]
  | u :: us => if t < u then t :: u :: us else if t = u then u :: us else u :: insertInto t us

theorem mem_insertInto {t x : String} {l : List String} :
    x ∈ insertInto t l ↔ x = t ∨ x ∈ l := by
  induction l with
  | nil => simp [insertInto]
  | cons u us ih =>
    simp only [insertInto]
    split
    · simp
    · split
      · next h => subst h; simp
      · simp only [List.mem_cons, ih]; constructor <;> (rintro (h | h | h) <;> simp [h])

theorem sorted_insertInto {t : String} {l : List String} (h : l.Pairwise (· < ·)) :
    (insertInto t l).Pairwise (· < ·) := by
  induction l with
  | nil => simp [insertInto]
  | cons u us ih =>
    rw [List.pairwise_cons] at h
    simp only [insertInto]
    split
    · next htu =>
      refine List.pairwise_cons.mpr ⟨fun x hx => ?_, List.pairwise_cons.mpr h⟩
      rcases List.mem_cons.mp hx with rfl | hx
      · exact htu
      · exact String.lt_trans htu (h.1 x hx)
    · split
      · exact List.pairwise_cons.mpr h
      · next htu hne =>
        refine List.pairwise_cons.mpr ⟨fun x hx => ?_, ih h.2⟩
        rcases mem_insertInto.mp hx with rfl | hx
        · exact Std.lt_of_le_of_ne (String.not_lt.mp htu) (Ne.symm hne)
        · exact h.1 x hx

def empty : TextSet := ⟨[], .nil⟩

instance : Inhabited TextSet := ⟨empty⟩

def insert (s : TextSet) (t : String) : TextSet :=
  ⟨insertInto t s.toList, sorted_insertInto s.sorted⟩

def ofList (l : List String) : TextSet := l.foldl insert empty

instance : Membership String TextSet := ⟨fun s t => t ∈ s.toList⟩

instance (s : TextSet) (t : String) : Decidable (t ∈ s) :=
  inferInstanceAs (Decidable (t ∈ s.toList))

def contains (s : TextSet) (t : String) : Bool := decide (t ∈ s)

def isEmpty (s : TextSet) : Bool := s.toList.isEmpty

theorem insertInto_of_above {t : String} {l : List String} (above : ∀ u ∈ l, u < t) :
    insertInto t l = l ++ [t] := by
  induction l with
  | nil => rfl
  | cons u us ih =>
    rw [List.forall_mem_cons] at above
    rw [insertInto, if_neg (String.lt_asymm above.1), if_neg (Ne.symm (String.ne_of_lt above.1)),
      ih above.2, List.cons_append]

theorem toList_foldl_insert {l : List String} : ∀ s : TextSet, (s.toList ++ l).Pairwise (· < ·) →
    (l.foldl insert s).toList = s.toList ++ l := by
  induction l with
  | nil => simp
  | cons t l ih =>
    intro s sorted
    have last : (s.insert t).toList = s.toList ++ [t] := insertInto_of_above fun u hu =>
      (List.pairwise_append.mp sorted).2.2 u hu t List.mem_cons_self
    rw [List.foldl_cons, ih (s.insert t) (by simpa [last] using sorted), last, List.append_assoc,
      List.singleton_append]

/-- A set is made of the list of its members. -/
theorem ofList_toList (s : TextSet) : ofList s.toList = s := by
  have same : (ofList s.toList).toList = s.toList := toList_foldl_insert empty s.sorted
  obtain ⟨l, sorted⟩ := s
  change (ofList l).toList = l at same
  generalize ofList l = s at same
  subst same
  rfl

@[simp] theorem mem_insert {s : TextSet} {t x : String} : x ∈ s.insert t ↔ x = t ∨ x ∈ s :=
  mem_insertInto

theorem mem_ofList {l : List String} {x : String} : x ∈ ofList l ↔ x ∈ l := by
  have added : ∀ s : TextSet, x ∈ l.foldl insert s ↔ x ∈ l ∨ x ∈ s := by
    induction l with
    | nil => simp
    | cons t l ih =>
      intro s
      rw [List.foldl_cons, ih, mem_insert, List.mem_cons, ← or_assoc, or_comm (a := x ∈ l)]
  have none : x ∉ empty := List.not_mem_nil
  rw [ofList, added, or_iff_left none]

theorem eq_of_mem_iff {s t : TextSet} (h : ∀ x, x ∈ s ↔ x ∈ t) : s = t := by
  obtain ⟨l, sorted⟩ := s
  obtain ⟨l', sorted'⟩ := t
  have perm : l.Perm l' :=
    (List.perm_ext_iff_of_nodup (sorted.imp String.ne_of_lt) (sorted'.imp String.ne_of_lt)).mpr h
  have same : l = l' := perm.eq_of_pairwise
    (fun a b _ _ below above => absurd above (String.lt_asymm below)) sorted sorted'
  subst same
  rfl

end TextSet

end AdminConsole
