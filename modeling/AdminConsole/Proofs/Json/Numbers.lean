import AdminConsole.Proofs.Json.Strings

/-!
# Reading numbers back

A numeral is read as it is written, digit by digit (`numeral_of_spells`), as long as what follows
does not go on with it. The digits of a whole number make a numeral (`spellsNumeral_natural`), and
it stands for the number again (`value?_natural`) if the number has at most 64 bits. -/

namespace AdminConsole.Json

/-- What follows a numeral does not go on with it. -/
def EndsNumeral (rest : Bytes) : Prop :=
  ∀ b ∈ rest.head?, isDigit b = false ∧ b ≠ 46 ∧ b ≠ 101 ∧ b ≠ 69

theorem EndsNumeral.nil : EndsNumeral [] := fun _ eq => nomatch eq

theorem EndsNumeral.cons {b : UInt8} (h : isDigit b = false ∧ b ≠ 46 ∧ b ≠ 101 ∧ b ≠ 69)
    (bs : Bytes) : EndsNumeral (b :: bs) := by
  intro b' eq
  obtain rfl := Option.some.inj eq
  exact h

/-- A whole number as it is written. -/
def Numeral.natural (n : Nat) : Numeral :=
  ⟨false, (Nat.toDigits 10 n).map fun c => c.toNat - 48, [], none⟩

/-! ### Digits -/

def digitBytes (ds : List Nat) : Bytes := ds.map fun d => UInt8.ofNat (d + 48)

/-- What follows some digits does not go on with them. -/
def EndsDigits (rest : Bytes) : Prop := ∀ b ∈ rest.head?, isDigit b = false

theorem EndsDigits.cons {b : UInt8} (h : isDigit b = false) (bs : Bytes) : EndsDigits (b :: bs) := by
  intro b' eq
  obtain rfl := Option.some.inj eq
  exact h

theorem EndsNumeral.endsDigits {rest : Bytes} (h : EndsNumeral rest) : EndsDigits rest :=
  fun b hb => (h b hb).1

theorem isDigit_ofNat {d : Nat} (h : d < 10) : isDigit (UInt8.ofNat (d + 48)) = true := by
  simp only [isDigit, Bool.and_eq_true, decide_eq_true_eq, UInt8.le_iff_toNat_le,
    Utf8.toNat_ofNat (show d + 48 < 256 by omega)]
  exact ⟨Nat.le_add_left 48 d, by change d + 48 ≤ 57; omega⟩

section digits

variable {ds : List Nat} (all : ∀ d ∈ ds, d < 10) {rest : Bytes}

include all

theorem digits_digitBytes (ends : EndsDigits rest) :
    digits (digitBytes ds ++ rest) = ds ∧ skipDigits (digitBytes ds ++ rest) = rest := by
  have stops : rest.takeWhile isDigit = [] ∧ rest.dropWhile isDigit = rest := by
    cases rest with
    | nil => exact ⟨rfl, rfl⟩
    | cons b rest => simp [ends b rfl]
  have found : ∀ b ∈ digitBytes ds, isDigit b = true := by
    intro b hb
    obtain ⟨d, hd, rfl⟩ := List.mem_map.mp hb
    exact isDigit_ofNat (all d hd)
  rw [digits, skipDigits, List.takeWhile_append_of_pos found, List.dropWhile_append_of_pos found,
    stops.1, stops.2, List.append_nil, digitBytes, List.map_map]
  refine ⟨(List.map_congr_left fun d hd => ?_).trans (List.map_id ds), rfl⟩
  have small := all d hd
  simp only [Function.comp_apply, Utf8.toNat_ofNat (show d + 48 < 256 by omega), id_eq]
  omega

theorem someDigits_digitBytes (given : ds ≠ []) (ends : EndsDigits rest) :
    someDigits (digitBytes ds ++ rest) = .ok (ds, rest) := by
  obtain ⟨found, left⟩ := digits_digitBytes all ends
  obtain ⟨d, ds, rfl⟩ := List.exists_cons_of_ne_nil given
  rw [List.forall_mem_cons] at all
  rw [digitBytes, List.map_cons, List.cons_append] at found left ⊢
  rw [someDigits, if_pos (isDigit_ofNat all.1), found, left]

end digits

/-! ### Numerals -/

/-- One zero, or digits that do not start with zero. -/
inductive IsWhole : List Nat → Prop
  | zero : IsWhole [0]
  | digits {d : Nat} {ds : List Nat} (pos : d ≠ 0) (all : ∀ x ∈ d :: ds, x < 10) : IsWhole (d :: ds)

/-- The digits after the point, or neither. -/
def fractionBytes : List Nat → Bytes
  | [] => []
  | d :: ds => 46 :: digitBytes (d :: ds)

/-- The sign of an exponent. -/
inductive SpellsSign : Bool → Bytes → Prop
  | none : SpellsSign false []
  | plus : SpellsSign false [43]
  | minus : SpellsSign true [45]

inductive SpellsExponent : Option (Bool × List Nat) → Bytes → Prop
  | none : SpellsExponent none []
  | some {e : UInt8} {down : Bool} {ds : List Nat} {sign : Bytes} (mark : e = 101 ∨ e = 69)
    (signed : SpellsSign down sign) (given : ds ≠ []) (all : ∀ d ∈ ds, d < 10) :
    SpellsExponent (some (down, ds)) (e :: (sign ++ digitBytes ds))

/-- The bytes of a numeral after its sign. -/
inductive SpellsNumeral : Numeral → Bytes → Prop
  | mk (negative : Bool) {whole fraction : List Nat} {exponent : Option (Bool × List Nat)}
    {t : Bytes} (first : IsWhole whole) (all : ∀ d ∈ fraction, d < 10)
    (last : SpellsExponent exponent t) : SpellsNumeral ⟨negative, whole, fraction, exponent⟩
      (digitBytes whole ++ (fractionBytes fraction ++ t))

section numerals

variable {rest : Bytes}

theorem wholePart_of_isWhole {ds : List Nat} (h : IsWhole ds) (ends : EndsDigits rest) :
    wholePart (digitBytes ds ++ rest) = .ok (ds, rest) := by
  cases h with
  | zero =>
    cases rest with
    | nil => rfl
    | cons b rest => exact if_neg (by simp [ends b rfl])
  | @digits d ds pos all =>
    have read := someDigits_digitBytes all (List.cons_ne_nil d ds) ends
    unfold wholePart
    split
    · next eq =>
      -- The first digit is not a zero.
      obtain ⟨zero, -⟩ := List.cons.inj eq
      have small := all d List.mem_cons_self
      have code := congrArg UInt8.toNat zero
      rw [Utf8.toNat_ofNat (show d + 48 < 256 by omega)] at code
      have : d + 48 = 48 := code
      omega
    · exact read

theorem fractionPart_fractionBytes {ds : List Nat} (all : ∀ d ∈ ds, d < 10) (ends : EndsDigits rest)
    (noPoint : ∀ b ∈ rest.head?, b ≠ 46) :
    fractionPart (fractionBytes ds ++ rest) = .ok (ds, rest) := by
  cases ds with
  | nil =>
    unfold fractionPart
    split
    · next eq => exact absurd rfl (noPoint 46 (by rw [← List.nil_append rest]; exact eq ▸ rfl))
    · rfl
  | cons d ds => exact someDigits_digitBytes all (List.cons_ne_nil d ds) ends

theorem exponentPart_of_spells {exponent : Option (Bool × List Nat)} {t : Bytes}
    (h : SpellsExponent exponent t) (ends : EndsNumeral rest) :
    exponentPart (t ++ rest) = .ok (exponent, rest) := by
  cases h with
  | none =>
    cases rest with
    | nil => rfl
    | cons b rest =>
      obtain ⟨_, _, lower, upper⟩ := ends b rfl
      exact if_neg (by simp [lower, upper])
  | @some e down ds sign mark signed given all =>
    have read := someDigits_digitBytes all given ends.endsDigits
    obtain ⟨d, ds, rfl⟩ := List.exists_cons_of_ne_nil given
    have digit := isDigit_ofNat (all d List.mem_cons_self)
    unfold exponentPart
    simp only [List.cons_append, if_pos mark, List.append_assoc]
    cases signed with
    | plus | minus =>
      simp only [List.cons_append, List.nil_append, read]
      rfl
    | none =>
      -- A digit is no sign.
      have other : ∀ b, isDigit b = false → UInt8.ofNat (d + 48) ≠ b := by
        rintro b none rfl
        exact nomatch digit.symm.trans none
      rw [List.nil_append]
      split
      · next eq => exact absurd (List.cons.inj eq).1 (other 43 rfl)
      · next eq => exact absurd (List.cons.inj eq).1 (other 45 rfl)
      · simp only [read]
        rfl

/-- **A numeral is read as it is written.** -/
theorem numeral_of_spells {m : Numeral} {t : Bytes} (h : SpellsNumeral m t)
    (ends : EndsNumeral rest) : numeral m.negative (t ++ rest) = .ok (m, rest) := by
  obtain ⟨negative, first, all, last⟩ := h
  rename_i whole fraction exponent t
  have afterFraction : ∀ b ∈ (t ++ rest).head?, isDigit b = false ∧ b ≠ 46 := by
    cases last with
    | none => exact fun b hb => ⟨(ends b hb).1, (ends b hb).2.1⟩
    | some mark =>
      intro b hb
      obtain rfl := Option.some.inj hb
      rcases mark with rfl | rfl <;> decide
  have afterWhole : EndsDigits (fractionBytes fraction ++ (t ++ rest)) := by
    cases fraction with
    | nil => exact fun b hb => (afterFraction b hb).1
    | cons d ds => exact .cons (by decide) _
  rw [List.append_assoc, List.append_assoc]
  simp only [numeral, wholePart_of_isWhole first afterWhole,
    fractionPart_fractionBytes all (fun b hb => (afterFraction b hb).1) fun b hb =>
      (afterFraction b hb).2, exponentPart_of_spells last ends, bind, Except.bind]
  rfl

/-- A numeral starts with a digit, whatever its sign. -/
theorem SpellsNumeral.starts {m : Numeral} {t : Bytes} (h : SpellsNumeral m t) :
    ∃ b t', t = b :: t' ∧ isDigit b = true := by
  obtain ⟨negative, first, all, last⟩ := h
  cases first with
  | zero => exact ⟨_, _, rfl, by decide⟩
  | digits pos all => exact ⟨_, _, rfl, isDigit_ofNat (all _ List.mem_cons_self)⟩

end numerals

/-! ### Whole numbers -/

theorem digit_bounds {c : Char} (h : c.isDigit = true) : 48 ≤ c.toNat ∧ c.toNat ≤ 57 :=
  Char.isDigit_iff_toNat.mp h

theorem utf8EncodeChar_digit {c : Char} (h : c.isDigit = true) :
    String.utf8EncodeChar c = [UInt8.ofNat c.toNat] := by
  have bounds := digit_bounds h
  have short : c.val.toNat ≤ 127 := by
    change c.toNat ≤ 127
    omega
  simp only [String.utf8EncodeChar, if_pos short]
  rfl

theorem isDigit_of_mem_toDigits {n : Nat} : ∀ c ∈ Nat.toDigits 10 n, c.isDigit = true :=
  fun _ hc => Nat.isDigit_of_mem_toDigits (by decide) (by decide) hc

theorem bytesOf_digits {cs : List Char} (all : ∀ c ∈ cs, c.isDigit = true) :
    bytesOf cs = digitBytes (cs.map fun c => c.toNat - 48) := by
  induction cs with
  | nil => rfl
  | cons c cs ih =>
    rw [List.forall_mem_cons] at all
    have code : c.toNat - 48 + 48 = c.toNat := Nat.sub_add_cancel (digit_bounds all.1).1
    rw [bytesOf, List.flatMap_cons, utf8EncodeChar_digit all.1, List.map_cons, digitBytes,
      List.map_cons, code]
    exact congrArg (_ :: ·) (ih all.2)

/-- A number that is written with a zero in front is zero. -/
theorem toDigits_zero_cons {n : Nat} {cs : List Char} (h : Nat.toDigits 10 n = '0' :: cs) :
    cs = [] := by
  induction n using Nat.strongRecOn generalizing cs with
  | _ n ih =>
    rw [Nat.toDigits_eq_if (by decide)] at h
    split at h
    · exact (List.cons.inj h).2.symm
    · next large =>
      obtain ⟨c, front, eq⟩ :=
        List.exists_cons_of_ne_nil (Nat.toDigits_ne_nil (n := n / 10) (b := 10))
      rw [eq, List.cons_append] at h
      obtain ⟨rfl, -⟩ := List.cons.inj h
      obtain rfl := ih (n / 10) (by omega) eq
      have zero : n / 10 = 0 := by
        rw [← Nat.ofDigitChars_toDigits (b := 10) (n := n / 10) (by decide) (by decide), eq]
        rfl
      omega

theorem isWhole_natural (n : Nat) : IsWhole (Numeral.natural n).whole := by
  obtain ⟨c, cs, written⟩ := List.exists_cons_of_ne_nil (Nat.toDigits_ne_nil (n := n) (b := 10))
  have small : ∀ d ∈ (Numeral.natural n).whole, d < 10 := by
    intro d hd
    obtain ⟨c, hc, rfl⟩ := List.mem_map.mp hd
    have bounds := digit_bounds (isDigit_of_mem_toDigits c hc)
    omega
  rw [Numeral.natural] at small ⊢
  rw [written, List.map_cons] at small ⊢
  by_cases zero : c.toNat - 48 = 0
  · have bounds := digit_bounds (isDigit_of_mem_toDigits c (written ▸ List.mem_cons_self))
    obtain rfl : c = '0' := eq_of_toNat (n := 48) (by omega)
    obtain rfl := toDigits_zero_cons written
    exact .zero
  · exact .digits zero small

/-- **The digits of a whole number make a numeral.** -/
theorem spellsNumeral_natural (n : Nat) :
    SpellsNumeral (.natural n) (bytesOf (Nat.toDigits 10 n)) := by
  have none : ∀ d ∈ ([] : List Nat), d < 10 := nofun
  have spelled := SpellsNumeral.mk false (isWhole_natural n) none .none
  rwa [fractionBytes, List.append_nil, List.append_nil, Numeral.natural,
    ← bytesOf_digits isDigit_of_mem_toDigits] at spelled

/-! ### Numbers -/

namespace Numeral

/-- Digits that fit are all kept. -/
theorem gather_of_le (ds : List Nat) (acc : Nat)
    (fits : ds.foldl (fun n d => n * 10 + d) acc ≤ maxNatural) :
    gather acc ds = (ds.foldl (fun n d => n * 10 + d) acc, 0) := by
  induction ds generalizing acc with
  | nil => rfl
  | cons d ds ih =>
    have grows : ∀ (ds : List Nat) (n : Nat), n ≤ ds.foldl (fun n d => n * 10 + d) n := by
      intro ds
      induction ds with
      | nil => exact fun n => Nat.le_refl n
      | cons d ds ih => exact fun n => Nat.le_trans (by omega) (ih (n * 10 + d))
    rw [List.foldl_cons] at fits ⊢
    rw [gather, if_neg (Nat.not_lt.mpr (Nat.le_trans (grows ds _) fits)), ih _ fits]

theorem foldl_natural (n : Nat) : (natural n).whole.foldl (fun n d => n * 10 + d) 0 = n := by
  have sum := Nat.ofDigitChars_toDigits (b := 10) (n := n) (by decide) (by decide)
  rw [Nat.ofDigitChars_eq_foldl] at sum
  rw [natural, List.foldl_map]
  simpa only [Nat.mul_comm, show '0'.toNat = 48 from rfl] using sum

/-- **A whole number of at most 64 bits is the number that its digits stand for.** -/
theorem value?_natural {n : Nat} (fits : n ≤ maxNatural) : (natural n).value? = some (.natural n) := by
  have whole := foldl_natural n
  have gathered := gather_of_le (natural n).whole 0 (by rw [whole]; exact fits)
  rw [whole] at gathered
  rw [value?, gathered]
  rfl

theorem read_natural {n : Nat} (fits : n ≤ maxNatural) : (natural n).read = .ok (.natural n) := by
  rw [read, value?_natural fits]

end Numeral

end AdminConsole.Json
