import AdminConsole.Json.Reader
import AdminConsole.Proofs.Json.Numbers

/-!
# Reading values back

The grammar of values, with white space wherever there may be some (`Spells`): what spells a value
is read as that value (`readValue_of_spells`), whatever may come after it, unless it goes on with a
number: inside a list or an object nothing does. Three times the number of bytes is fuel enough. A
value that is spelled can be passed over (`skip_of_spells`). -/

namespace AdminConsole.Json

def IsBlank (ws : Bytes) : Prop := ∀ b ∈ ws, isSpace b = true

/-- A string in its quotes. -/
def SpellsString (text : Except Cause String) (t : Bytes) : Prop :=
  ∃ body, SpellsText body ∧ t = 34 :: (body ++ [34]) ∧ text = stringText (body ++ [34])

def sign (negative : Bool) : Bytes := if negative then [45] else []

/-- The comma before an item that is not the first. -/
def comma (first : Bool) : Bytes := if first then [] else [44]

mutual

inductive Spells : Value → Bytes → Prop
  | null : Spells .null [110, 117, 108, 108]
  | yes : Spells (.bool true) [116, 114, 117, 101]
  | no : Spells (.bool false) [102, 97, 108, 115, 101]
  | number {m : Numeral} {t : Bytes} (h : SpellsNumeral m t) :
    Spells (.number m) (sign m.negative ++ t)
  | string {text : Except Cause String} {t : Bytes} (h : SpellsString text t) :
    Spells (.string text) t
  | array {items : Items} {t : Bytes} (h : SpellsItems true items t) :
    Spells (.array items) (91 :: t)
  | object {members : Members} {t : Bytes} (h : SpellsMembers true members t) :
    Spells (.object members) (123 :: t)

/-- The items of a list after its bracket, or after the first of them. -/
inductive SpellsItems : Bool → Items → Bytes → Prop
  | close (first : Bool) {ws : Bytes} (blank : IsBlank ws) : SpellsItems first .close (ws ++ [93])
  | item (first : Bool) {ws t gap u : Bytes} {v : Value} {rest : Items} (blank : IsBlank ws)
    (h : Spells v t) (after : IsBlank gap) (hr : SpellsItems false rest u) :
    SpellsItems first (.item v rest) (comma first ++ (ws ++ (t ++ (gap ++ u))))

inductive SpellsMembers : Bool → Members → Bytes → Prop
  | close (first : Bool) {ws : Bytes} (blank : IsBlank ws) : SpellsMembers first .close (ws ++ [125])
  | member (first : Bool) {key : Except Cause String} {ws k gap gap' t gap'' u : Bytes} {v : Value}
    {rest : Members} (blank : IsBlank ws) (named : SpellsString key k) (before : IsBlank gap)
    (after : IsBlank gap') (h : Spells v t) (last : IsBlank gap'')
    (hr : SpellsMembers false rest u) : SpellsMembers first (.member key v rest)
      (comma first ++ (ws ++ (k ++ (gap ++ 58 :: (gap' ++ (t ++ (gap'' ++ u)))))))

end

/-! ### White space -/

theorem skipSpace_blank {ws : Bytes} (blank : IsBlank ws) (bs : Bytes) :
    skipSpace (ws ++ bs) = skipSpace bs := by
  induction ws with
  | nil => rfl
  | cons b ws ih =>
    rw [IsBlank, List.forall_mem_cons] at blank
    rw [List.cons_append, skipSpace, List.dropWhile_cons_of_pos blank.1]
    exact ih blank.2

theorem skipSpace_cons {b : UInt8} (h : isSpace b = false) (bs : Bytes) :
    skipSpace (b :: bs) = b :: bs := by
  rw [skipSpace, List.dropWhile_cons_of_neg (by simp [h])]

theorem bytesOf_quote (s : String) :
    bytesOf (quote s) = 34 :: (bytesOf (s.toList.flatMap escapeChar) ++ [34]) := by
  rw [quote, bytesOf, List.flatMap_append, List.flatMap_cons]
  rfl

/-- A string is spelled in the quotes in which it is written. -/
theorem spellsString_quote (s : String) : SpellsString (.ok s) (bytesOf (quote s)) :=
  ⟨_, spellsText_quoted s, bytesOf_quote s, (stringText_quoted s []).symm⟩

theorem stringAt_text {t : Bytes} (h : SpellsText t) (rest : Bytes) :
    stringAt (t ++ 34 :: rest) = .ok (stringText (t ++ [34]), rest) := by
  rw [stringAt, skipString_text h]
  exact congrArg (fun text => Except.ok (text, rest)) (stringText_text h rest)

theorem EndsNumeral.of_space {b : UInt8} (h : isSpace b = true) (bs : Bytes) :
    EndsNumeral (b :: bs) := by
  have spaces : b = 0x20 ∨ b = 0x0A ∨ b = 0x09 ∨ b = 0x0D := by
    simpa [isSpace, or_assoc] using h
  rcases spaces with rfl | rfl | rfl | rfl <;> exact .cons (by decide) bs

theorem EndsNumeral.blank {ws bs : Bytes} (h : EndsNumeral bs) (blank : IsBlank ws) :
    EndsNumeral (ws ++ bs) := by
  cases ws with
  | nil => exact h
  | cons b ws => exact .of_space (blank b List.mem_cons_self) _

/-- A digit is no white space and closes nothing. -/
theorem isSpace_of_isDigit {b : UInt8} (h : isDigit b = true) :
    isSpace b = false ∧ b ≠ 93 ∧ b ≠ 125 := by
  refine ⟨?_, ?_, ?_⟩
  · cases space : isSpace b with
    | false => rfl
    | true =>
      have ends := (EndsNumeral.of_space space [] b rfl).1
      exact nomatch h.symm.trans ends
  · rintro rfl
    exact nomatch h
  · rintro rfl
    exact nomatch h

/-- A value starts with a byte that is no white space and closes nothing. -/
theorem Spells.starts {v : Value} {t : Bytes} (h : Spells v t) :
    ∃ b t', t = b :: t' ∧ isSpace b = false ∧ b ≠ 93 ∧ b ≠ 125 := by
  cases h with
  | string h =>
    obtain ⟨body, -, rfl, -⟩ := h
    exact ⟨_, _, rfl, by decide⟩
  | @number m t h =>
    obtain ⟨b, t', rfl, digit⟩ := h.starts
    rw [sign]
    split
    · exact ⟨_, _, rfl, by decide⟩
    · exact ⟨_, _, rfl, isSpace_of_isDigit digit⟩
  | _ => exact ⟨_, _, rfl, by decide⟩

theorem readValue_blank {ws : Bytes} (blank : IsBlank ws) (fuel : Nat) (bs : Bytes) :
    readValue fuel (ws ++ bs) = readValue fuel bs := by
  cases fuel with
  | zero => rw [readValue, readValue]
  | succ fuel => rw [readValue, readValue, skipSpace_blank blank]

theorem readItems_blank {ws : Bytes} (blank : IsBlank ws) (fuel : Nat) (first : Bool)
    (bs : Bytes) : readItems fuel first (ws ++ bs) = readItems fuel first bs := by
  cases fuel with
  | zero => rw [readItems, readItems]
  | succ fuel => rw [readItems, readItems, skipSpace_blank blank]

theorem readMembers_blank {ws : Bytes} (blank : IsBlank ws) (fuel : Nat) (first : Bool)
    (bs : Bytes) : readMembers fuel first (ws ++ bs) = readMembers fuel first bs := by
  cases fuel with
  | zero => rw [readMembers, readMembers]
  | succ fuel => rw [readMembers, readMembers, skipSpace_blank blank]

/-! ### Values -/

theorem readItems_item {fuel : Nat} (first : Bool) {ws : Bytes} (blank : IsBlank ws) {b : UInt8}
    (space : isSpace b = false) (open' : b ≠ 93) (bs : Bytes) :
    readItems (fuel + 1) first (comma first ++ (ws ++ b :: bs)) = readItem fuel (b :: bs) := by
  cases first with
  | true =>
    rw [readItems, comma, if_pos rfl, List.nil_append, skipSpace_blank blank, skipSpace_cons space]
    simp [open']
  | false =>
    rw [readItems, comma, if_neg Bool.false_ne_true, List.singleton_append,
      skipSpace_cons (by decide)]
    simp only [skipSpace_blank blank, skipSpace_cons space]
    simp [open']

theorem readMembers_member {fuel : Nat} (first : Bool) {ws : Bytes} (blank : IsBlank ws)
    (bs : Bytes) :
    readMembers (fuel + 1) first (comma first ++ (ws ++ 34 :: bs)) =
      readMember fuel (34 :: bs) := by
  have space : isSpace 34 = false := by decide
  cases first with
  | true =>
    rw [readMembers, comma, if_pos rfl, List.nil_append, skipSpace_blank blank,
      skipSpace_cons space]
    simp
  | false =>
    rw [readMembers, comma, if_neg Bool.false_ne_true, List.singleton_append,
      skipSpace_cons (by decide)]
    simp only [skipSpace_blank blank, skipSpace_cons space]
    simp

theorem SpellsItems.length_pos {first : Bool} {items : Items} {t : Bytes}
    (h : SpellsItems first items t) : 0 < t.length := by
  cases h with
  | close => simp
  | item first blank h after hr =>
    obtain ⟨b, t', rfl, _⟩ := h.starts
    simp only [List.length_append, List.length_cons]
    omega

theorem SpellsMembers.length_pos {first : Bool} {members : Members} {t : Bytes}
    (h : SpellsMembers first members t) : 0 < t.length := by
  cases h with
  | close => simp
  | member => simp only [List.length_append, List.length_cons]; omega

/-- No number goes on into the rest of a list. -/
theorem SpellsItems.ends {items : Items} {t : Bytes} (h : SpellsItems false items t) (rest : Bytes) :
    EndsNumeral (t ++ rest) := by
  cases h with
  | close _ blank =>
    rw [List.append_assoc]
    exact (EndsNumeral.cons (by decide) rest).blank blank
  | item => exact .cons (by decide) _

/-- No number goes on into the rest of an object. -/
theorem SpellsMembers.ends {members : Members} {t : Bytes} (h : SpellsMembers false members t)
    (rest : Bytes) : EndsNumeral (t ++ rest) := by
  cases h with
  | close _ blank =>
    rw [List.append_assoc]
    exact (EndsNumeral.cons (by decide) rest).blank blank
  | member => exact .cons (by decide) _

/-- A number is read where a value is due. -/
theorem readValue_number (fuel : Nat) {m : Numeral} {t rest : Bytes} (h : SpellsNumeral m t)
    (ends : EndsNumeral rest) :
    readValue (fuel + 1) (sign m.negative ++ t ++ rest) = (.number m, some rest) := by
  have read := numeral_of_spells h ends
  cases negative : m.negative with
  | true =>
    rw [negative] at read
    rw [sign, if_pos rfl, List.append_assoc, List.singleton_append, readValue,
      skipSpace_cons (by decide)]
    simp [numberAt, read]
  | false =>
    obtain ⟨b, t', rfl, digit⟩ := h.starts
    have other : ∀ b', Json.isDigit b' = false → b ≠ b' := by
      rintro b' none rfl
      exact nomatch digit.symm.trans none
    rw [negative, List.cons_append] at read
    rw [sign, if_neg Bool.false_ne_true, List.nil_append, List.cons_append, readValue,
      skipSpace_cons (isSpace_of_isDigit digit).1]
    simp only [if_neg (other 110 rfl), if_neg (other 116 rfl), if_neg (other 102 rfl),
      if_neg (other 45 rfl), digit, if_true, numberAt, read]

mutual

/-- **What spells a value is read as the value.** -/
theorem readValue_of_spells {v : Value} {t : Bytes} (h : Spells v t) (fuel : Nat)
    (enough : 3 * t.length ≤ fuel) {rest : Bytes} (ends : EndsNumeral rest) :
    readValue fuel (t ++ rest) = (v, some rest) := by
  obtain ⟨fuel, rfl⟩ : ∃ f, fuel = f + 1 := by
    obtain ⟨b, t', rfl, _⟩ := h.starts
    exact ⟨fuel - 1, by simp at enough; omega⟩
  match h with
  | .null | .yes | .no =>
    rw [readValue]
    rfl
  | .number h => exact readValue_number fuel h ends
  | .string h =>
    obtain ⟨body, h, rfl, rfl⟩ := h
    rw [readValue, List.cons_append, skipSpace_cons (by decide), List.append_assoc,
      List.singleton_append]
    simp [stringAt_text h, isDigit]
  | .array h =>
    rw [readValue, List.cons_append, skipSpace_cons (by decide)]
    have inner := readItems_of_spells h fuel (by simp at enough; omega) rest
    simp [inner, isDigit]
  | .object h =>
    rw [readValue, List.cons_append, skipSpace_cons (by decide)]
    have inner := readMembers_of_spells h fuel (by simp at enough; omega) rest
    simp [inner, isDigit]

theorem readItems_of_spells {first : Bool} {items : Items} {t : Bytes}
    (h : SpellsItems first items t) (fuel : Nat) (enough : 3 * t.length ≤ fuel) (rest : Bytes) :
    readItems fuel first (t ++ rest) = (items, some rest) := by
  match h with
  | .close first blank =>
    obtain ⟨fuel, rfl⟩ : ∃ f, fuel = f + 1 := ⟨fuel - 1, by simp at enough; omega⟩
    rw [readItems, List.append_assoc, skipSpace_blank blank, List.singleton_append,
      skipSpace_cons (by decide)]
    simp
  | .item first blank h after hr =>
    obtain ⟨b, t, rfl, space, open', _⟩ := h.starts
    have below := hr.length_pos
    simp only [List.length_append, List.length_cons] at enough
    obtain ⟨fuel, rfl⟩ : ∃ f, fuel = f + 2 := ⟨fuel - 2, by omega⟩
    simp only [List.append_assoc, List.cons_append]
    rw [readItems_item first blank space open', readItem, ← List.cons_append,
      readValue_of_spells h fuel (by simp; omega) ((hr.ends rest).blank after)]
    simp only [readItems_blank after]
    rw [readItems_of_spells hr fuel (by omega) rest]

theorem readMembers_of_spells {first : Bool} {members : Members} {t : Bytes}
    (h : SpellsMembers first members t) (fuel : Nat) (enough : 3 * t.length ≤ fuel) (rest : Bytes) :
    readMembers fuel first (t ++ rest) = (members, some rest) := by
  match h with
  | .close first blank =>
    obtain ⟨fuel, rfl⟩ : ∃ f, fuel = f + 1 := ⟨fuel - 1, by simp at enough; omega⟩
    rw [readMembers, List.append_assoc, skipSpace_blank blank, List.singleton_append,
      skipSpace_cons (by decide)]
    simp
  | .member first blank named before after h last hr =>
    obtain ⟨body, hk, rfl, rfl⟩ := named
    have below := hr.length_pos
    simp only [List.length_append, List.length_cons] at enough
    obtain ⟨fuel, rfl⟩ : ∃ f, fuel = f + 2 := ⟨fuel - 2, by omega⟩
    simp only [List.append_assoc, List.cons_append, List.nil_append]
    rw [readMembers_member first blank, readMember]
    have colon : isSpace 58 = false := rfl
    simp only [stringAt_text hk, skipSpace_blank before, skipSpace_cons colon, readValue_blank after]
    rw [readValue_of_spells h fuel (by omega) ((hr.ends rest).blank last)]
    simp only [readMembers_blank last]
    rw [readMembers_of_spells hr fuel (by omega) rest]

end

/-- The bytes of a value, with white space around them, are read as a document of it. -/
theorem read_of_spells {v : Value} {t ws ws' : Bytes} (h : Spells v t) (before : IsBlank ws)
    (after : IsBlank ws') : read (ws ++ (t ++ ws')) = ⟨v, false⟩ := by
  have ends : EndsNumeral ws' := by
    rw [← List.append_nil ws']
    exact EndsNumeral.nil.blank after
  have spent : skipSpace ws' = [] := by
    rw [← List.append_nil ws']
    exact skipSpace_blank after []
  have whole := readValue_of_spells h (3 * (ws ++ (t ++ ws')).length + 3)
    (by rw [List.length_append, List.length_append]; omega) ends
  simp only [read, readValue_blank before, whole, spent]
  rfl

/-! ### Passing over a value -/

mutual

/-- **What is spelled can be passed over**, however deep it is and whatever its numbers and strings
stand for. -/
theorem skip_of_spells {v : Value} {t : Bytes} (h : Spells v t) : v.skip = .ok () := by
  match h with
  | .null | .yes | .no | .number _ | .string _ => rfl
  | .array h => exact skipItems_of_spells h
  | .object h => exact skipMembers_of_spells h

theorem skipItems_of_spells {first : Bool} {items : Items} {t : Bytes}
    (h : SpellsItems first items t) : items.skip = .ok () := by
  match h with
  | .close _ _ => rfl
  | .item _ _ h _ hr =>
    rw [Items.skip, skip_of_spells h]
    exact skipItems_of_spells hr

theorem skipMembers_of_spells {first : Bool} {members : Members} {t : Bytes}
    (h : SpellsMembers first members t) : members.skip = .ok () := by
  match h with
  | .close _ _ => rfl
  | .member _ _ _ _ _ h _ hr =>
    rw [Members.skip, skip_of_spells h]
    exact skipMembers_of_spells hr

end

end AdminConsole.Json
