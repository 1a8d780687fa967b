import AdminConsole.Json.Token
import AdminConsole.Json.Writer
import AdminConsole.Proofs.Text.Utf8

/-!
# Reading strings back

Any string is found to its end, which settles what its text is (`skipString_text`,
`stringText_text`), and a string that is written in quotes is read as what it was
(`stringText_quoted`). A character is written in one of three ways: as it is, as a letter after a
backslash, or as a code of four digits (`escape_cases`). -/

namespace AdminConsole.Json

/-- Characters as bytes. -/
def bytesOf (cs : List Char) : Bytes := cs.flatMap String.utf8EncodeChar

theorem encode_ofList (cs : List Char) : Utf8.encode (String.ofList cs) = bytesOf cs := by
  rw [Utf8.encode, String.toList_ofList, bytesOf]

/-- A byte that stands for itself in a string. -/
def IsPlain (b : UInt8) : Prop := b ≠ 34 ∧ b ≠ 92 ∧ ¬ b < 32

theorem isPlain_ofNat {v : Nat} (h : v < 256) (control : 32 ≤ v) (quote : v ≠ 34)
    (backslash : v ≠ 92) : IsPlain (UInt8.ofNat v) := by
  refine ⟨fun eq => quote ?_, fun eq => backslash ?_, fun lt => ?_⟩
  · simpa [Utf8.toNat_ofNat h] using congrArg UInt8.toNat eq
  · simpa [Utf8.toNat_ofNat h] using congrArg UInt8.toNat eq
  · rw [UInt8.lt_iff_toNat_lt, Utf8.toNat_ofNat h] at lt
    exact absurd lt (Nat.not_lt.mpr control)

/-- A character past the controls is written in plain bytes, unless it has to be escaped. -/
theorem isPlain_utf8EncodeChar {c : Char} (control : 32 ≤ c.toNat) (quote : c.toNat ≠ 34)
    (backslash : c.toNat ≠ 92) : ∀ b ∈ String.utf8EncodeChar c, IsPlain b := by
  unfold String.utf8EncodeChar
  change 32 ≤ c.val.toNat at control
  change c.val.toNat ≠ 34 at quote
  change c.val.toNat ≠ 92 at backslash
  have := Utf8.code_bounds c
  generalize c.val.toNat = v at *
  dsimp only
  split
  · simpa using isPlain_ofNat (by omega) control quote backslash
  · have high : ∀ n, 128 ≤ n → n < 256 → IsPlain (UInt8.ofNat n) := fun n low lt =>
      isPlain_ofNat lt (by omega) (by omega) (by omega)
    split
    · intro b hb
      simp only [List.mem_cons, List.not_mem_nil, or_false] at hb
      rcases hb with rfl | rfl <;> exact high _ (by omega) (by omega)
    · split
      · intro b hb
        simp only [List.mem_cons, List.not_mem_nil, or_false] at hb
        rcases hb with rfl | rfl | rfl <;> exact high _ (by omega) (by omega)
      · intro b hb
        simp only [List.mem_cons, List.not_mem_nil, or_false] at hb
        rcases hb with rfl | rfl | rfl | rfl <;> exact high _ (by omega) (by omega)

/-- How a character is written: the bytes in the string, and what it stands for. -/
inductive Escaped (c : Char) : Bytes → Prop
  | asItIs (h : ∀ b ∈ String.utf8EncodeChar c, IsPlain b) : Escaped c (String.utf8EncodeChar c)
  | letter (b b' : UInt8) (short : b ≠ 117) (h : escaped? b = some b')
    (stands : String.utf8EncodeChar c = [b']) : Escaped c [92, b]
  | code {b b' : UInt8} (high : hexDigit? b = some (c.toNat / 16))
    (low : hexDigit? b' = some (c.toNat % 16)) (control : c.toNat < 32) :
    Escaped c [92, 117, 48, 48, b, b']

theorem hexDigit?_lowerDigit {n : Nat} (h : n < 16) :
    ∃ b, String.utf8EncodeChar (lowerDigit n) = [b] ∧ hexDigit? b = some n := by
  have all : ∀ n : Fin 16, String.utf8EncodeChar (lowerDigit n) =
      [(String.utf8EncodeChar (lowerDigit n)).headD 0] ∧
        hexDigit? ((String.utf8EncodeChar (lowerDigit n)).headD 0) = some n.val := by
    decide
  exact ⟨_, all ⟨n, h⟩⟩

theorem eq_of_toNat {c : Char} {n : Nat} (h : c.toNat = n) : c = Char.ofNat n := by
  rw [← h, Char.ofNat_toNat]

theorem escape_cases (c : Char) : Escaped c (bytesOf (escapeChar c)) := by
  unfold escapeChar
  split
  · next h => exact .letter 34 34 (by decide) rfl (by rw [h]; rfl)
  split
  · next h => exact .letter 92 92 (by decide) rfl (by rw [h]; rfl)
  split
  · next h => exact .letter 98 8 (by decide) rfl (by rw [eq_of_toNat h]; rfl)
  split
  · next h => exact .letter 102 12 (by decide) rfl (by rw [eq_of_toNat h]; rfl)
  split
  · next h => exact .letter 110 10 (by decide) rfl (by rw [h]; rfl)
  split
  · next h => exact .letter 114 13 (by decide) rfl (by rw [h]; rfl)
  split
  · next h => exact .letter 116 9 (by decide) rfl (by rw [h]; rfl)
  split
  · next control =>
    obtain ⟨b, eq, high⟩ := hexDigit?_lowerDigit (n := c.toNat / 16) (by omega)
    obtain ⟨b', eq', low⟩ := hexDigit?_lowerDigit (n := c.toNat % 16) (by omega)
    have written : bytesOf ['\\', 'u', '0', '0', lowerDigit (c.toNat / 16),
        lowerDigit (c.toNat % 16)] = [92, 117, 48, 48, b, b'] := by
      simp only [bytesOf, List.flatMap_cons, List.flatMap_nil, eq, eq']
      rfl
    rw [written]
    exact .code high low control
  · next quote backslash _ _ _ _ _ control =>
    rw [bytesOf, List.flatMap_singleton]
    refine .asItIs (isPlain_utf8EncodeChar (Nat.not_lt.mp control) (fun eq => ?_) fun eq => ?_)
    · exact quote (eq_of_toNat eq)
    · exact backslash (eq_of_toNat eq)

/-! ### To the end of a string -/

/-- What may stand between the quotes of a string: bytes that stand for themselves, letters after a
backslash and codes of four hexadecimal digits, whether they make up characters or not. -/
inductive SpellsText : Bytes → Prop
  | nil : SpellsText []
  | plain {b : UInt8} {t : Bytes} (h : IsPlain b) (rest : SpellsText t) : SpellsText (b :: t)
  | letter {b : UInt8} {t : Bytes} (h : (escaped? b).isSome) (rest : SpellsText t) :
    SpellsText (92 :: b :: t)
  | code {a b c d : UInt8} {t : Bytes} (h : ∀ x ∈ [a, b, c, d], (hexDigit? x).isSome)
    (rest : SpellsText t) : SpellsText (92 :: 117 :: a :: b :: c :: d :: t)

theorem SpellsText.append {t u : Bytes} (h : SpellsText t) (h' : SpellsText u) :
    SpellsText (t ++ u) := by
  induction h with
  | nil => exact h'
  | plain h _ ih => exact .plain h ih
  | letter h _ ih => exact .letter h ih
  | code h _ ih => exact .code h ih

theorem spellsText_of_isPlain {bs : Bytes} (h : ∀ b ∈ bs, IsPlain b) : SpellsText bs := by
  induction bs with
  | nil => exact .nil
  | cons b bs ih =>
    obtain ⟨first, h⟩ := List.forall_mem_cons.mp h
    exact .plain first (ih h)

theorem Escaped.spellsText {c : Char} {bs : Bytes} (h : Escaped c bs) : SpellsText bs := by
  cases h with
  | asItIs h => exact spellsText_of_isPlain h
  | letter b b' short h => exact .letter (Option.isSome_of_eq_some h) .nil
  | code high low control =>
    refine .code (fun x hx => ?_) .nil
    simp only [List.mem_cons, List.not_mem_nil, or_false] at hx
    rcases hx with rfl | rfl | rfl | rfl
    · rfl
    · rfl
    · exact Option.isSome_of_eq_some high
    · exact Option.isSome_of_eq_some low

/-- A string is written in a way in which strings may be written. -/
theorem spellsText_quoted (s : String) : SpellsText (bytesOf (s.toList.flatMap escapeChar)) := by
  unfold bytesOf
  induction s.toList with
  | nil => exact .nil
  | cons c cs ih =>
    rw [List.flatMap_cons, List.flatMap_append]
    exact (escape_cases c).spellsText.append ih

theorem ne_of_escaped {b : UInt8} (h : (escaped? b).isSome) : b ≠ 117 := by
  rintro rfl
  exact nomatch h

/-- The value of a code that has all its digits. -/
theorem addDigit_isSome {v : Nat} {b : UInt8} (h : (hexDigit? b).isSome) :
    ∃ v', addDigit (some v) b = some v' := by
  obtain ⟨d, digit⟩ := Option.isSome_iff_exists.mp h
  exact ⟨16 * v + d, by simp only [addDigit, digit]⟩

theorem addDigit_digits {a b c d : UInt8} (h : ∀ x ∈ [a, b, c, d], (hexDigit? x).isSome) :
    ∃ v, addDigit (addDigit (addDigit (addDigit (some 0) a) b) c) d = some v := by
  obtain ⟨v, first⟩ := addDigit_isSome (v := 0) (h a (by simp))
  obtain ⟨v, second⟩ := addDigit_isSome (v := v) (h b (by simp))
  obtain ⟨v, third⟩ := addDigit_isSome (v := v) (h c (by simp))
  obtain ⟨v, last⟩ := addDigit_isSome (v := v) (h d (by simp))
  exact ⟨v, by rw [first, second, third, last]⟩

/-- A string is found to its end. -/
theorem skipString_text {t : Bytes} (h : SpellsText t) (rest : Bytes) :
    skipString .plain (t ++ 34 :: rest) = .ok rest := by
  induction h with
  | nil => simp [skipString]
  | plain h _ ih =>
    obtain ⟨quote, backslash, control⟩ := h
    rw [List.cons_append, skipString, if_neg quote, if_neg backslash, if_neg control, ih]
  | letter h _ ih =>
    obtain ⟨b', stands⟩ := Option.isSome_iff_exists.mp h
    simp [skipString, ne_of_escaped h, stands, ih]
  | code h _ ih =>
    obtain ⟨v, value⟩ := addDigit_digits h
    simp [skipString, value, ih]

/-! ### The text of a string -/

/-- The four digits of a code. -/
theorem addDigit_code {v : Nat} {b b' : UInt8} (high : hexDigit? b = some (v / 16))
    (low : hexDigit? b' = some (v % 16)) :
    addDigit (addDigit (addDigit (addDigit (some 0) 48) 48) b) b' = some v := by
  simp only [addDigit, high, low, show hexDigit? 48 = some 0 from rfl]
  exact congrArg some (by omega)

theorem stringBytes_plain {bs : Bytes} (h : ∀ b ∈ bs, IsPlain b) (rest : Bytes) :
    stringBytes .plain (bs ++ rest) = (stringBytes .plain rest).map (bs ++ ·) := by
  induction bs with
  | nil =>
    rw [List.nil_append]
    cases stringBytes .plain rest <;> rfl
  | cons b bs ih =>
    obtain ⟨⟨quote, backslash, control⟩, h⟩ := List.forall_mem_cons.mp h
    rw [List.cons_append, stringBytes, if_neg quote, if_neg backslash, if_neg control, ih h]
    cases stringBytes .plain rest <;> rfl

theorem stringBytes_escaped {c : Char} {bs : Bytes} (h : Escaped c bs) (rest : Bytes) :
    stringBytes .plain (bs ++ rest) =
      (stringBytes .plain rest).map (String.utf8EncodeChar c ++ ·) := by
  cases h with
  | asItIs h => exact stringBytes_plain h rest
  | letter b b' short h stands =>
    simp [stringBytes, short, h, stands]
  | @code b b' high low control =>
    have notLow : isLow c.toNat = false := by simp [isLow]; omega
    have notHigh : isHigh c.toNat = false := by simp [isHigh]; omega
    simp only [List.cons_append, List.nil_append, stringBytes, addDigit_code high low]
    simp only [List.length_cons, if_neg (show ¬ rest.length + 1 + 1 + 1 + 1 < 4 by omega)]
    simp [notLow, notHigh, utf8Of, Char.ofNat_toNat]

theorem stringBytes_quoted (s : String) (rest : Bytes) :
    stringBytes .plain (bytesOf (s.toList.flatMap escapeChar) ++ 34 :: rest) =
      .ok (Utf8.encode s) := by
  unfold bytesOf Utf8.encode
  induction s.toList with
  | nil => simp [stringBytes]
  | cons c cs ih =>
    rw [List.flatMap_cons, List.flatMap_append, List.append_assoc, List.flatMap_cons]
    refine (stringBytes_escaped (escape_cases c) _).trans ?_
    rw [ih]
    rfl

/-- Whether a string has a text, and which, is settled before its closing quote: in the midst of a
pair of surrogates too. -/
theorem stringBytes_text {t : Bytes} (h : SpellsText t) (rest : Bytes) :
    stringBytes .plain (t ++ 34 :: rest) = stringBytes .plain (t ++ [34]) ∧
      ∀ high, stringBytes (.pair high) (t ++ 34 :: rest) = stringBytes (.pair high) (t ++ [34]) := by
  induction h with
  | nil => exact ⟨by simp [stringBytes], fun high => by simp [stringBytes]⟩
  | plain h _ ih =>
    obtain ⟨quote, backslash, control⟩ := h
    exact ⟨by simp [stringBytes, quote, control, backslash, ih.1], fun high => by
      simp [stringBytes, backslash]⟩
  | letter h _ ih =>
    obtain ⟨b', stands⟩ := Option.isSome_iff_exists.mp h
    exact ⟨by simp [stringBytes, ne_of_escaped h, stands, ih.1], fun high => by
      simp [stringBytes, ne_of_escaped h]⟩
  | code h _ ih =>
    obtain ⟨v, value⟩ := addDigit_digits h
    have long : ∀ n : Nat, ¬ n + 1 + 1 + 1 + 1 < 4 := by omega
    exact ⟨by simp [stringBytes, long, value, ih.1, ih.2], fun high => by
      simp [stringBytes, long, value, ih.1]⟩

theorem stringText_text {t : Bytes} (h : SpellsText t) (rest : Bytes) :
    stringText (t ++ 34 :: rest) = stringText (t ++ [34]) := by
  rw [stringText, stringText, (stringBytes_text h rest).1]

/-- **The text of a string that is written in quotes is the string.** -/
theorem stringText_quoted (s : String) (rest : Bytes) :
    stringText (bytesOf (s.toList.flatMap escapeChar) ++ 34 :: rest) = .ok s := by
  simp only [stringText, stringBytes_quoted, bind, Except.bind, Utf8.decode?_encode]
  rfl

end AdminConsole.Json
