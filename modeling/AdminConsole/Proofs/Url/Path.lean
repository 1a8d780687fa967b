import AdminConsole.Proofs.Text.Form
import AdminConsole.Url.Path

/-!
# Plain paths

A path whose segments hold nothing but characters that stand for themselves, and are no dots, is
written as it was read (`UrlPath.ofText_join`). Every path that starts with a slash is made of
segments (`UrlPath.join_pieces`). -/

namespace AdminConsole.UrlPath

/-- Every character stands for itself, and none can make a segment a dot. -/
def IsPlain (s : List Char) : Prop :=
  ∀ c ∈ s, c.toNat < 128 ∧ isSpecial c = false ∧ isSeparator true c = false ∧ c ≠ '.' ∧ c ≠ '%'

/-- The segment is written as it was read, since its characters stand for themselves and it is no
dot. -/
structure IsFixed (s : List Char) : Prop where
  chars : ∀ c ∈ s, c.toNat < 128 ∧ isSpecial c = false ∧ isSeparator true c = false
  noDot : isSingleDot s = false
  noDots : isDoubleDot s = false

/-- The segments, each after a slash. -/
def join (ss : List (List Char)) : List Char := ss.flatMap fun s => '/' :: s

variable {s : List Char} {ss : List (List Char)}

theorem join_append (ss ts : List (List Char)) : join (ss ++ ts) = join ss ++ join ts :=
  List.flatMap_append

theorem join_pieces (cs : List Char) : join (Form.pieces '/' cs) = '/' :: cs := by
  induction cs with
  | nil => rfl
  | cons c cs ih =>
    rw [Form.pieces]
    split
    · next empty => exact absurd empty (Form.pieces_ne_nil '/' cs)
    · next t ts parts =>
      rw [parts] at ih
      have rest : t ++ join ts = cs := (List.cons.inj ih).2
      split
      · next slash =>
        subst slash rest
        rfl
      · subst rest
        rfl

theorem isSeparator_of_isFixed (h : IsFixed s) (special : Bool) :
    ∀ c ∈ s, isSeparator special c = false := by
  intro c mem
  have both := (h.chars c mem).2.2
  simp only [isSeparator, Bool.or_eq_false_iff, Bool.true_and] at both ⊢
  simp [both]

theorem IsPlain.isFixed (h : IsPlain s) : IsFixed s := by
  have other : ∀ dots : List String, (∀ t ∈ dots, '.' ∈ t.toList ∨ '%' ∈ t.toList) →
      String.ofList s ∉ dots := by
    intro dots marked mem
    have found := marked _ mem
    rw [String.toList_ofList] at found
    exact found.elim (fun dot => (h _ dot).2.2.2.1 rfl) fun mark => (h _ mark).2.2.2.2 rfl
  exact ⟨fun c mem => ⟨(h c mem).1, (h c mem).2.1, (h c mem).2.2.1⟩,
    decide_eq_false (other _ (by decide)), decide_eq_false (other _ (by decide))⟩

theorem encode_of_isFixed (h : IsFixed s) : Percent.encode isSpecial s = s :=
  Percent.encode_eq_self fun c mem => ⟨(h.chars c mem).1, (h.chars c mem).2.1⟩

/-- A segment ends where the next one starts. -/
theorem segments_append (special : Bool) (h : ∀ c ∈ s, isSeparator special c = false)
    {rest : List Char} {t : List Char} {ts : List (List Char)}
    (tail : segments special rest = t :: ts) : segments special (s ++ rest) = (s ++ t) :: ts := by
  induction s with
  | nil => exact tail
  | cons c s ih =>
    rw [List.forall_mem_cons] at h
    rw [List.cons_append, segments, ih h.2]
    simp only [h.1, Bool.false_eq_true, if_false, List.cons_append]

theorem segments_join (special : Bool) (hs : IsFixed s) (hss : ∀ s ∈ ss, IsFixed s) :
    segments special (s ++ join ss) = s :: ss := by
  induction ss generalizing s with
  | nil =>
    have tail : segments special (join []) = [[]] := rfl
    rw [segments_append special (isSeparator_of_isFixed hs special) tail, List.append_nil]
  | cons t ts ih =>
    rw [List.forall_mem_cons] at hss
    have tail : segments special (join (t :: ts)) = [] :: t :: ts := by
      change segments special ('/' :: (t ++ join ts)) = _
      rw [segments, ih hss.1 hss.2]
      rfl
    rw [segments_append special (isSeparator_of_isFixed hs special) tail, List.append_nil]

theorem walk_of_isFixed (h : ∀ s ∈ ss, IsFixed s) (stack : List (List Char)) :
    walk false stack ss = ss.reverse ++ stack := by
  induction ss generalizing stack with
  | nil => rfl
  | cons s ss ih =>
    rw [List.forall_mem_cons] at h
    rw [walk]
    simp only [encode_of_isFixed h.1, h.1.noDot, h.1.noDots, Bool.false_eq_true, if_false,
      Bool.false_and]
    rw [ih h.2, List.reverse_cons, List.append_assoc, List.singleton_append]

/-- **A path of such segments is written as it was read.** -/
theorem ofText_join (special : Bool) (hs : IsFixed s) (hss : ∀ s ∈ ss, IsFixed s) :
    ofText special false (s ++ join ss) = join (s :: ss) := by
  have fixed : ∀ t ∈ s :: ss, IsFixed t := List.forall_mem_cons.mpr ⟨hs, hss⟩
  have stack : stackOf special false (s ++ join ss) = (s :: ss).reverse := by
    rw [stackOf, segments_join special hs hss, walk_of_isFixed fixed, List.append_nil]
  simp only [ofText, stack, render, List.reverse_reverse, Bool.false_eq_true, if_false]
  rfl

end AdminConsole.UrlPath
