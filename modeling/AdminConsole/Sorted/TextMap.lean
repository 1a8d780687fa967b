/-!
# Maps from strings

A map is the list of its entries in the order of the keys' code points, each key once, so equal
maps are equal values. `get?_insert` says what an insertion changes, and that it changes nothing
else. -/

namespace AdminConsole

structure TextMap (α : Type) where
  toList : List (String × α)
  sorted : toList.Pairwise (fun a b => a.1 < b.1)
  deriving DecidableEq

namespace TextMap

variable {α : Type}

/-- Puts an entry in its place; an entry that has the key already gives way. -/
def insertInto (k : String) (v : α) : List (String × α) → List (String × α)
  | [] => [(k, v)]
  | e :: es =>
    if k < e.1 then (k, v) :: e :: es
    else if k = e.1 then (k, v) :: es
    else e :: insertInto k v es

theorem key_of_mem_insertInto {k : String} {v : α} {e : String × α} {l : List (String × α)}
    (h : e ∈ insertInto k v l) : e.1 = k ∨ e ∈ l := by
  induction l with
  | nil => simp_all [insertInto]
  | cons u us ih =>
    simp only [insertInto] at h
    split at h
    · rcases List.mem_cons.mp h with rfl | h
      · exact .inl rfl
      · exact .inr h
    · split at h
      · rcases List.mem_cons.mp h with rfl | h
        · exact .inl rfl
        · exact .inr (List.mem_cons_of_mem _ h)
      · rcases List.mem_cons.mp h with rfl | h
        · exact .inr List.mem_cons_self
        · exact (ih h).imp_right (List.mem_cons_of_mem _)

theorem sorted_insertInto {k : String} {v : α} {l : List (String × α)}
    (h : l.Pairwise (fun a b => a.1 < b.1)) :
    (insertInto k v l).Pairwise (fun a b => a.1 < b.1) := by
  induction l with
  | nil => simp [insertInto]
  | cons u us ih =>
    rw [List.pairwise_cons] at h
    simp only [insertInto]
    split
    · next hku =>
      refine List.pairwise_cons.mpr ⟨fun x hx => ?_, List.pairwise_cons.mpr h⟩
      rcases List.mem_cons.mp hx with rfl | hx
      · exact hku
      · exact String.lt_trans hku (h.1 x hx)
    · split
      · next hku =>
        exact List.pairwise_cons.mpr ⟨fun x hx => hku ▸ h.1 x hx, h.2⟩
      · next hku hne =>
        refine List.pairwise_cons.mpr ⟨fun x hx => ?_, ih h.2⟩
        rcases key_of_mem_insertInto hx with hx | hx
        · exact hx ▸ Std.lt_of_le_of_ne (String.not_lt.mp hku) (Ne.symm hne)
        · exact h.1 x hx

def empty : TextMap α := ⟨[], .nil⟩

instance : Inhabited (TextMap α) := ⟨empty⟩

def insert (m : TextMap α) (k : String) (v : α) : TextMap α :=
  ⟨insertInto k v m.toList, sorted_insertInto m.sorted⟩

/-- The last of several entries with one key stays. -/
def ofList (l : List (String × α)) : TextMap α := l.foldl (fun m e => m.insert e.1 e.2) empty

def get? (m : TextMap α) (k : String) : Option α := m.toList.lookup k

def isEmpty (m : TextMap α) : Bool := m.toList.isEmpty

theorem lookup_cons (k x : String) (y : α) (l : List (String × α)) :
    List.lookup k ((x, y) :: l) = if k = x then some y else l.lookup k := by
  by_cases h : k = x
  · simp [h]
  · simp [List.lookup_cons, beq_false_of_ne h, h]

theorem lookup_insertInto (k k' : String) (v : α) (l : List (String × α)) :
    (insertInto k v l).lookup k' = if k' = k then some v else l.lookup k' := by
  induction l with
  | nil => exact lookup_cons k' k v []
  | cons e es ih =>
    obtain ⟨x, y⟩ := e
    simp only [insertInto]
    split
    · rw [lookup_cons]
    · split <;> simp only [lookup_cons, ih] <;> grind

@[simp] theorem get?_insert (m : TextMap α) (k k' : String) (v : α) :
    (m.insert k v).get? k' = if k' = k then some v else m.get? k' :=
  lookup_insertInto k k' v m.toList

@[simp] theorem get?_empty (k : String) : (empty : TextMap α).get? k = none := rfl

theorem insertInto_of_above {k : String} {v : α} {l : List (String × α)} (above : ∀ e ∈ l, e.1 < k) :
    insertInto k v l = l ++ [(k, v)] := by
  induction l with
  | nil => rfl
  | cons e es ih =>
    rw [List.forall_mem_cons] at above
    rw [insertInto, if_neg (String.lt_asymm above.1), if_neg (Ne.symm (String.ne_of_lt above.1)),
      ih above.2, List.cons_append]

theorem toList_foldl_insert {l : List (String × α)} : ∀ m : TextMap α,
    (m.toList ++ l).Pairwise (fun a b => a.1 < b.1) →
      (l.foldl (fun m e => m.insert e.1 e.2) m).toList = m.toList ++ l := by
  induction l with
  | nil => simp
  | cons e l ih =>
    intro m sorted
    have last : (m.insert e.1 e.2).toList = m.toList ++ [e] := insertInto_of_above fun u hu =>
      (List.pairwise_append.mp sorted).2.2 u hu e List.mem_cons_self
    rw [List.foldl_cons, ih (m.insert e.1 e.2) (by simpa [last] using sorted), last,
      List.append_assoc, List.singleton_append]

/-- A map is made of the list of its entries. -/
theorem ofList_toList (m : TextMap α) : ofList m.toList = m := by
  have same : (ofList m.toList).toList = m.toList := toList_foldl_insert empty m.sorted
  obtain ⟨l, sorted⟩ := m
  change (ofList l).toList = l at same
  generalize ofList l = m at same
  subst same
  rfl

end TextMap

end AdminConsole
