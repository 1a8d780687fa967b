import AdminConsole.Text.Utf8

/-!
# Reading UTF-8 back

What `encode` writes, `decode?` reads (`decode?_encode`): the bytes of a character take the scan
from between two characters to between two characters, and it answers the character. -/

namespace AdminConsole.Utf8

theorem toNat_ofNat {n : Nat} (h : n < 256) : (UInt8.ofNat n).toNat = n := by
  simpa using h

/-- The code points of characters: no surrogates, and nothing past the last plane. -/
theorem code_bounds (c : Char) : c.val.toNat < 0xD800 ∨ 0xDFFF < c.val.toNat ∧ c.val.toNat < 0x110000 :=
  c.valid

/-- A byte that continues a sequence of which more bytes are due. -/
theorem scan_due_more {bits left lo hi b : Nat} (hb : b < 256) (lower : lo ≤ b) (upper : b ≤ hi)
    (more : 1 < left) (bs : List UInt8) :
    scan (.due bits left lo hi) (UInt8.ofNat b :: bs) =
      scan (.due (bits * 64 + (b - 0x80)) (left - 1) 0x80 0xBF) bs := by
  rw [scan, toNat_ofNat hb, if_pos ⟨lower, upper⟩]
  exact if_neg (by omega)

/-- The last byte of a sequence. -/
theorem scan_due_last {bits lo hi b : Nat} (hb : b < 256) (lower : lo ≤ b) (upper : b ≤ hi)
    (bs : List UInt8) :
    scan (.due bits 1 lo hi) (UInt8.ofNat b :: bs) =
      some (Char.ofNat (bits * 64 + (b - 0x80))) :: scan .idle bs := by
  rw [scan, toNat_ofNat hb, if_pos ⟨lower, upper⟩]
  exact if_pos (Nat.le_refl 1)

/-- A byte that begins a sequence of several. -/
theorem scan_idle_due {b bits left lo hi : Nat} (hb : b < 256)
    (starts : start b = ([], .due bits left lo hi)) (bs : List UInt8) :
    scan .idle (UInt8.ofNat b :: bs) = scan (.due bits left lo hi) bs := by
  rw [scan, toNat_ofNat hb, starts, List.nil_append]

theorem scan_utf8EncodeChar (c : Char) (bs : List UInt8) :
    scan .idle (String.utf8EncodeChar c ++ bs) = some c :: scan .idle bs := by
  have bounds := code_bounds c
  have whole : Char.ofNat c.val.toNat = c := Char.ofNat_toNat c
  unfold String.utf8EncodeChar
  generalize c.val.toNat = v at bounds whole
  dsimp only
  split
  · next one =>
    rw [List.cons_append, List.nil_append, scan, toNat_ofNat (by omega), start, if_pos (by omega)]
    simp [whole]
  · split
    · next two =>
      have starts : start (v / 64 % 32 + 192) = ([], .due (v / 64) 1 0x80 0xBF) := by
        simp only [start]
        rw [if_neg (by omega), if_neg (by omega), if_pos (by omega),
          show v / 64 % 32 + 192 - 192 = v / 64 by omega]
      rw [List.cons_append, scan_idle_due (by omega) starts, List.cons_append, List.nil_append,
        scan_due_last (by omega) (by omega) (by omega),
        show v / 64 * 64 + (v % 64 + 128 - 128) = v by omega, whole]
    · split
      · next three =>
        obtain ⟨lo, hi, starts, lower, upper⟩ : ∃ lo hi, start (v / 4096 % 16 + 224) =
            ([], .due (v / 4096) 2 lo hi) ∧ lo ≤ v / 64 % 64 + 128 ∧ v / 64 % 64 + 128 ≤ hi := by
          simp only [start]
          rw [if_neg (by omega), if_neg (by omega), if_neg (by omega)]
          split
          · exact ⟨0xA0, 0xBF, by rw [show v / 4096 = 0 by omega], by omega, by omega⟩
          · split
            · exact ⟨0x80, 0x9F, by rw [show v / 4096 = 13 by omega], by omega, by omega⟩
            · refine ⟨0x80, 0xBF, ?_, by omega, by omega⟩
              rw [if_pos (by omega), show v / 4096 % 16 + 224 - 224 = v / 4096 by omega]
        rw [List.cons_append, scan_idle_due (by omega) starts, List.cons_append, List.cons_append,
          List.nil_append, scan_due_more (by omega) lower upper (by omega),
          scan_due_last (by omega) (by omega) (by omega),
          show (v / 4096 * 64 + (v / 64 % 64 + 128 - 128)) * 64 + (v % 64 + 128 - 128) = v by omega,
          whole]
      · next four =>
        obtain ⟨lo, hi, starts, lower, upper⟩ : ∃ lo hi, start (v / 262144 % 8 + 240) =
            ([], .due (v / 262144) 3 lo hi) ∧ lo ≤ v / 4096 % 64 + 128 ∧
              v / 4096 % 64 + 128 ≤ hi := by
          simp only [start]
          rw [if_neg (by omega), if_neg (by omega), if_neg (by omega), if_neg (by omega),
            if_neg (by omega), if_neg (by omega)]
          split
          · exact ⟨0x90, 0xBF, by rw [show v / 262144 = 0 by omega], by omega, by omega⟩
          · split
            · refine ⟨0x80, 0xBF, ?_, by omega, by omega⟩
              rw [show v / 262144 % 8 + 240 - 240 = v / 262144 by omega]
            · refine ⟨0x80, 0x8F, ?_, by omega, by omega⟩
              rw [if_pos (by omega), show v / 262144 = 4 by omega]
        rw [List.cons_append, scan_idle_due (by omega) starts, List.cons_append, List.cons_append,
          List.cons_append, List.nil_append, scan_due_more (by omega) lower upper (by omega),
          scan_due_more (by omega) (by omega) (by omega) (by omega),
          scan_due_last (by omega) (by omega) (by omega),
          show ((v / 262144 * 64 + (v / 4096 % 64 + 128 - 128)) * 64 + (v / 64 % 64 + 128 - 128)) *
            64 + (v % 64 + 128 - 128) = v by omega, whole]

theorem scan_encode (cs : List Char) :
    scan .idle (cs.flatMap String.utf8EncodeChar) = cs.map some := by
  induction cs with
  | nil => rfl
  | cons c cs ih => rw [List.flatMap_cons, scan_utf8EncodeChar, ih, List.map_cons]

/-- **What is written as bytes is read back.** -/
theorem decode?_encode (s : String) : decode? (encode s) = some s := by
  have all : ∀ cs : List Char, (cs.map some).mapM id = some cs := by
    intro cs
    induction cs with
    | nil => rfl
    | cons c cs ih => simp [List.mapM_cons, ih]
  rw [decode?, encode, scan_encode, all, Option.map_some, String.ofList_toList]

end AdminConsole.Utf8
