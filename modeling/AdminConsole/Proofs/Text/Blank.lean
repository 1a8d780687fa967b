import Mathlib.Data.List.TakeWhile
import AdminConsole.Text.Blank

/-!
# Ends and parts of texts

Taking a class of characters off the ends of a text parts it into a front and a back of that class
and what is between them (`exists_ends`), and it finds what stands between such ends
(`stripChars_between`). A text is cut at the first character of a class (`cutAt?_append_cons`). -/

namespace AdminConsole.Text

variable {p : Char → Bool} {cs front back : List Char}

theorem dropWhile_of_head (h : ∀ c ∈ cs.head?, p c = false) : cs.dropWhile p = cs := by
  cases cs with
  | nil => rfl
  | cons c cs => rw [List.dropWhile_cons_of_neg (by simp [h c rfl])]

theorem takeWhile_append_of_head (h : ∀ c ∈ back.head?, p c = false) (front : List Char) :
    (front ++ back).takeWhile p = front.takeWhile p := by
  have none : back.takeWhile p = [] := by
    cases back with
    | nil => rfl
    | cons c back => rw [List.takeWhile_cons_of_neg (by simp [h c rfl])]
  rw [List.takeWhile_append, none, List.append_nil]
  split
  · next all => rw [(List.takeWhile_prefix _).eq_of_length all]
  · rfl

theorem dropEndWhile_of_last (h : ∀ c ∈ cs.getLast?, p c = false) : dropEndWhile p cs = cs := by
  rw [dropEndWhile, dropWhile_of_head (by simpa using h), List.reverse_reverse]

theorem stripChars_of_ends (head : ∀ c ∈ cs.head?, p c = false)
    (last : ∀ c ∈ cs.getLast?, p c = false) : stripChars p cs = cs := by
  rw [stripChars, dropWhile_of_head head, dropEndWhile_of_last last]

theorem dropEndWhile_append (h : ∀ c ∈ back, p c = true) :
    dropEndWhile p (cs ++ back) = dropEndWhile p cs := by
  rw [dropEndWhile, List.reverse_append, List.dropWhile_append_of_pos (by simpa using h)]
  rfl

theorem dropEndWhile_append_of_last (h : ∀ c ∈ cs.getLast?, p c = false) :
    dropEndWhile p (cs ++ back) = cs ++ dropEndWhile p back := by
  have stays : cs.reverse.dropWhile p = cs.reverse := dropWhile_of_head (by simpa using h)
  rw [dropEndWhile, dropEndWhile, List.reverse_append, List.dropWhile_append]
  split
  · next gone =>
    rw [List.isEmpty_iff.mp gone, stays, List.reverse_reverse, List.reverse_nil, List.append_nil]
  · rw [List.reverse_append, List.reverse_reverse]

/-- More of the class at the ends changes nothing. -/
theorem stripChars_append (hf : ∀ c ∈ front, p c = true) (hb : ∀ c ∈ back, p c = true) :
    stripChars p (front ++ cs ++ back) = stripChars p cs := by
  rw [stripChars, List.append_assoc, List.dropWhile_append_of_pos hf, List.dropWhile_append]
  split
  · next gone =>
    rw [stripChars, List.isEmpty_iff.mp gone, List.dropWhile_eq_nil_iff.mpr hb]
  · rw [dropEndWhile_append hb, stripChars]

/-- What stands between ends of the class, and does not begin or end in it, is what is left. -/
theorem stripChars_between (head : ∀ c ∈ cs.head?, p c = false)
    (last : ∀ c ∈ cs.getLast?, p c = false) (hf : ∀ c ∈ front, p c = true)
    (hb : ∀ c ∈ back, p c = true) : stripChars p (front ++ cs ++ back) = cs := by
  rw [stripChars_append hf hb, stripChars_of_ends head last]

theorem exists_back (p : Char → Bool) (cs : List Char) :
    ∃ back, (∀ c ∈ back, p c = true) ∧ cs = dropEndWhile p cs ++ back := by
  refine ⟨(cs.reverse.takeWhile p).reverse, fun c hc => ?_, ?_⟩
  · exact List.mem_takeWhile_imp (List.mem_reverse.mp hc)
  · rw [dropEndWhile, ← List.reverse_append, List.takeWhile_append_dropWhile, List.reverse_reverse]

/-- Taking off the end leaves the start as it is, unless nothing is left. -/
theorem mem_head?_of_dropEndWhile {c : Char} (h : c ∈ (dropEndWhile p cs).head?) :
    c ∈ cs.head? := by
  obtain ⟨back, -, eq⟩ := exists_back p cs
  rw [eq, List.head?_append, Option.mem_def.mp h]
  rfl

/-- A text is a front and a back of the class and what is left without them. -/
theorem exists_ends (p : Char → Bool) (cs : List Char) :
    ∃ front back, (∀ c ∈ front, p c = true) ∧ (∀ c ∈ back, p c = true) ∧
      cs = front ++ stripChars p cs ++ back := by
  obtain ⟨back, hb, eq⟩ := exists_back p (cs.dropWhile p)
  refine ⟨cs.takeWhile p, back, fun c hc => List.mem_takeWhile_imp hc, hb, ?_⟩
  rw [stripChars, List.append_assoc, ← eq, List.takeWhile_append_dropWhile]

/-- Nothing of the class is left at the ends. -/
theorem ends_stripChars (p : Char → Bool) (cs : List Char) :
    (∀ c ∈ (stripChars p cs).head?, p c = false) ∧
      ∀ c ∈ (stripChars p cs).getLast?, p c = false := by
  have first : ∀ ds : List Char, ∀ c ∈ (ds.dropWhile p).head?, p c = false := by
    intro ds c hc
    have head := List.head?_dropWhile_not p ds
    rw [Option.mem_def.mp hc] at head
    simpa using head
  constructor
  · exact fun c hc => first cs c (mem_head?_of_dropEndWhile hc)
  · intro c hc
    rw [stripChars, dropEndWhile, List.getLast?_reverse] at hc
    exact first _ c hc

theorem trim_trim (s : String) : trim (trim s) = trim s := by
  obtain ⟨head, last⟩ := ends_stripChars isBlank s.toList
  rw [trim, strip, trim, strip, String.toList_ofList, stripChars_of_ends head last]

theorem mem_of_mem_stripChars {c : Char} (h : c ∈ stripChars p cs) : c ∈ cs := by
  obtain ⟨front, back, -, -, eq⟩ := exists_ends p cs
  rw [eq]
  simp [h]

theorem trim_append {front s back : String} (hf : isAllBlank front = true)
    (hb : isAllBlank back = true) : trim (front ++ s ++ back) = trim s := by
  rw [trim, strip, String.toList_append, String.toList_append,
    stripChars_append (List.all_eq_true.mp hf) (List.all_eq_true.mp hb)]
  rfl

/-- The first character that is left is the first one outside the class. -/
theorem head?_stripChars (p : Char → Bool) (cs : List Char) :
    (stripChars p cs).head? = cs.find? (fun c => !p c) := by
  obtain ⟨front, back, hf, hb, eq⟩ := exists_ends p cs
  have outside : ∀ {ds : List Char}, (∀ c ∈ ds, p c = true) → ds.find? (fun c => !p c) = none := by
    intro ds h
    simpa using h
  have head := (ends_stripChars p cs).1
  have found : cs.find? (fun c => !p c) = (stripChars p cs).find? (fun c => !p c) := by
    refine (congrArg (List.find? fun c => !p c) eq).trans ?_
    rw [List.find?_append, List.find?_append, outside hf, outside hb, Option.none_or,
      Option.or_none]
  rw [found]
  cases core : stripChars p cs with
  | nil => rfl
  | cons c ds =>
    rw [core] at head
    rw [List.find?_cons_of_pos (by simp [head c rfl]), List.head?_cons]

/-- The characters before the first one of the class are the same once the ends are off. -/
theorem takeWhile_stripChars (p : Char → Bool) (cs : List Char) :
    (stripChars p cs).takeWhile (fun c => !p c) =
      (cs.dropWhile p).takeWhile (fun c => !p c) := by
  obtain ⟨back, hb, eq⟩ := exists_back p (cs.dropWhile p)
  have ends : ∀ c ∈ back.head?, (!p c) = false := fun c hc => by
    simp [hb c (List.mem_of_mem_head? hc)]
  exact ((congrArg (List.takeWhile fun c => !p c) eq).trans
    (takeWhile_append_of_head ends _)).symm

/-! ### Cutting -/

theorem cutAt?_eq_none (h : ∀ c ∈ cs, p c = false) : cutAt? p cs = none := by
  have all : cs.dropWhile (fun c => !p c) = [] :=
    List.dropWhile_eq_nil_iff.mpr fun c hc => by simp [h c hc]
  rw [cutAt?, all]

theorem cutAt?_append_cons {c : Char} (h : ∀ c ∈ front, p c = false) (hc : p c = true) :
    cutAt? p (front ++ c :: back) = some (front, back) := by
  have before : ∀ c ∈ front, (!p c) = true := fun c hc => by simp [h c hc]
  rw [cutAt?, List.dropWhile_append_of_pos before, List.takeWhile_append_of_pos before,
    List.dropWhile_cons_of_neg (by simp [hc]), List.takeWhile_cons_of_neg (by simp [hc]),
    List.append_nil]

/-- A text is cut after the characters before the first one of the class. -/
theorem getD_cutAt? (p : Char → Bool) (cs : List Char) : (cutAt? p cs).getD (cs, []) =
    (cs.takeWhile (fun c => !p c), (cs.dropWhile (fun c => !p c)).tail) := by
  have whole := List.takeWhile_append_dropWhile (p := fun c => !p c) (l := cs)
  rw [cutAt?]
  split
  · next gone =>
    rw [gone, List.append_nil] at whole
    rw [whole, gone]
    rfl
  · next rest =>
    rw [rest]
    rfl

end AdminConsole.Text
