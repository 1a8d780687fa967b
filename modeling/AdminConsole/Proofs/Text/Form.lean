import AdminConsole.Proofs.Text.Blank
import AdminConsole.Proofs.Text.Utf8
import AdminConsole.Text.Form

/-!
# Reading forms back

What is written for a text in a form is read as the text (`Form.decodeText_encodeText`), and what is
written for pairs as the pairs (`Form.decode_encode`), whatever stands before them
(`Form.decode_append`). Nothing is written that has a meaning of its own in a form or in a URL
(`Form.isWritten_of_mem`). -/

namespace AdminConsole

/-- What holds for the first 128 characters holds for an ASCII character. -/
theorem Text.forall_ascii {P : Char → Prop} (all : ∀ i : Fin 128, P (Char.ofNat i)) {c : Char}
    (h : c.toNat < 128) : P c := by
  have found := all ⟨c.toNat, h⟩
  rwa [Char.ofNat_toNat] at found

/-! ### Percent triples -/

namespace Percent

variable {b : UInt8} {bs : List UInt8}

/-- Nothing is encoded where every character stands for itself. -/
theorem encode_eq_self {special : Char → Bool} {cs : List Char}
    (h : ∀ c ∈ cs, c.toNat < 128 ∧ special c = false) : encode special cs = cs := by
  induction cs with
  | nil => rfl
  | cons c cs ih =>
    rw [List.forall_mem_cons] at h
    have itself : encodeChar special c = [c] := by simp [encodeChar, h.1.1, h.1.2]
    rw [encode] at ih ⊢
    rw [List.flatMap_cons, itself, ih h.2, List.singleton_append]

theorem decode_cons (other : b ≠ 0x25) : decode (b :: bs) = b :: decode bs := by
  match bs with
  | [] => rfl
  | [_] => rfl
  | _ :: _ :: _ => rw [decode, if_neg other]

theorem decode_of_not_mem (h : 0x25 ∉ bs) : decode bs = bs := by
  induction bs with
  | nil => rfl
  | cons b bs ih =>
    rw [List.mem_cons, not_or] at h
    rw [decode_cons (Ne.symm h.1), ih h.2]

/-- The byte of a digit that is written. -/
theorem upperDigit_eq {n : Nat} (h : n < 16) :
    String.utf8EncodeChar (upperDigit n) = [UInt8.ofNat (upperDigit n).toNat] ∧
      digit? (UInt8.ofNat (upperDigit n).toNat) = some n ∧ (upperDigit n).isAlphanum = true := by
  have digits : ∀ n : Fin 16,
      String.utf8EncodeChar (upperDigit n) = [UInt8.ofNat (upperDigit n).toNat] ∧
        digit? (UInt8.ofNat (upperDigit n).toNat) = some n.val ∧
          (upperDigit n).isAlphanum = true := by decide
  exact digits ⟨n, h⟩

theorem decode_encodeByte (b : UInt8) (bs : List UInt8) :
    decode ((encodeByte b).flatMap String.utf8EncodeChar ++ bs) = b :: decode bs := by
  have small : b.toNat < 256 := b.toNat_lt
  obtain ⟨high, readHigh, -⟩ := upperDigit_eq (n := b.toNat / 16) (by omega)
  obtain ⟨low, readLow, -⟩ := upperDigit_eq (n := b.toNat % 16) (by omega)
  have mark : String.utf8EncodeChar '%' = [0x25] := by decide
  have written : (encodeByte b).flatMap String.utf8EncodeChar ++ bs =
      0x25 :: UInt8.ofNat (upperDigit (b.toNat / 16)).toNat ::
        UInt8.ofNat (upperDigit (b.toNat % 16)).toNat :: bs := by
    simp only [encodeByte, List.flatMap_cons, List.flatMap_nil, mark, high, low]
    rfl
  rw [written, decode, if_pos rfl, readHigh, readLow]
  simp only
  rw [Nat.div_add_mod, UInt8.ofNat_toNat]

theorem mem_encodeBytes {c : Char} (h : c ∈ bs.flatMap encodeByte) :
    c = '%' ∨ c.isAlphanum = true := by
  obtain ⟨b, -, mem⟩ := List.mem_flatMap.mp h
  have small : b.toNat < 256 := b.toNat_lt
  simp only [encodeByte, List.mem_cons, List.not_mem_nil, or_false] at mem
  rcases mem with rfl | rfl | rfl
  · exact .inl rfl
  · exact .inr (upperDigit_eq (by omega)).2.2
  · exact .inr (upperDigit_eq (by omega)).2.2

theorem decode_encodeBytes (written bs : List UInt8) :
    decode ((written.flatMap encodeByte).flatMap String.utf8EncodeChar ++ bs) =
      written ++ decode bs := by
  induction written with
  | nil => rfl
  | cons b written ih =>
    rw [List.flatMap_cons, List.flatMap_append, List.append_assoc, decode_encodeByte, ih,
      List.cons_append]

end Percent

/-- An ASCII character is one byte. -/
theorem Utf8.encode_ascii {c : Char} (h : c.toNat < 128) :
    String.utf8EncodeChar c = [UInt8.ofNat c.toNat] := by
  unfold String.utf8EncodeChar
  exact if_pos (Nat.le_of_lt_succ h)

namespace Form

/-! ### What is written -/

/-- The characters that a form is written in. -/
def isWritten (c : Char) : Bool := isPlain c || c == '+' || c == '%'

theorem toNat_lt_of_isAlphanum {c : Char} (h : c.isAlphanum = true) : c.toNat < 128 := by
  delta Char.isAlphanum Char.isAlpha Char.isUpper Char.isLower Char.isDigit at h
  simp only [Bool.or_eq_true, Bool.and_eq_true, decide_eq_true_eq, ge_iff_le,
    UInt32.le_iff_toNat_le] at h
  change c.val.toNat < 128
  rcases h with (⟨-, h⟩ | ⟨-, h⟩) | ⟨-, h⟩ <;> exact Nat.lt_of_le_of_lt h (by decide)

theorem toNat_lt_of_isPlain {c : Char} (h : isPlain c = true) : c.toNat < 128 := by
  simp only [isPlain, Bool.or_eq_true, beq_iff_eq] at h
  rcases h with (((h | rfl) | rfl) | rfl) | rfl
  · exact toNat_lt_of_isAlphanum h
  all_goals decide

theorem isWritten_of_mem {s : String} {c : Char} (h : c ∈ encodeText s) : isWritten c = true := by
  obtain ⟨d, -, mem⟩ := List.mem_flatMap.mp h
  unfold encodeChar at mem
  split at mem
  · obtain rfl := List.mem_singleton.mp mem
    rfl
  · unfold Percent.encodeChar at mem
    split at mem
    · next plain =>
      obtain rfl := List.mem_singleton.mp mem
      simp only [Bool.not_not, Bool.and_eq_true] at plain
      simp [isWritten, plain.2]
    · rcases Percent.mem_encodeBytes mem with rfl | alphanum
      · rfl
      · simp [isWritten, isPlain, alphanum]

/-- The characters that a pair is written in. -/
def isPairChar (c : Char) : Bool := isWritten c || c == '='

theorem isPairChar_of_mem {p : String × String} {c : Char} (h : c ∈ encodePair p) :
    isPairChar c = true := by
  rcases List.mem_append.mp h with mem | mem
  · simp [isPairChar, isWritten_of_mem mem]
  · rcases List.mem_cons.mp mem with rfl | mem
    · rfl
    · simp [isPairChar, isWritten_of_mem mem]

theorem toNat_lt_of_isPairChar {c : Char} (h : isPairChar c = true) : c.toNat < 128 := by
  simp only [isPairChar, isWritten, Bool.or_eq_true, beq_iff_eq] at h
  rcases h with ((plain | rfl) | rfl) | rfl
  · exact toNat_lt_of_isPlain plain
  all_goals decide

/-! ### Reading back -/

/-- The character that a plus sign stands for. -/
abbrev spaced (c : Char) : Char := if c = '+' then ' ' else c

theorem decode_encodeChar (c : Char) (bs : List UInt8) :
    Percent.decode (((encodeChar c).map spaced).flatMap String.utf8EncodeChar ++ bs) =
      String.utf8EncodeChar c ++ Percent.decode bs := by
  unfold encodeChar
  split
  · next space =>
    subst space
    have blank : String.utf8EncodeChar ' ' = [0x20] := by decide
    change Percent.decode (String.utf8EncodeChar ' ' ++ bs) = _
    rw [blank]
    exact Percent.decode_cons (by decide)
  · unfold Percent.encodeChar
    split
    · next plain =>
      simp only [Bool.not_not, Bool.and_eq_true, decide_eq_true_eq] at plain
      have itself : spaced c = c := if_neg (by rintro rfl; exact nomatch plain.2)
      have other : UInt8.ofNat c.toNat ≠ 0x25 := by
        intro eq
        have bytes := congrArg UInt8.toNat eq
        rw [Utf8.toNat_ofNat (Nat.lt_trans plain.1 (by decide))] at bytes
        have code : c.val.toNat = '%'.val.toNat := bytes
        obtain rfl : c = '%' := Char.ext (UInt32.toNat_inj.mp code)
        exact nomatch plain.2
      rw [List.map_singleton, itself, List.flatMap_singleton, Utf8.encode_ascii plain.1]
      exact Percent.decode_cons other
    · -- There is no plus sign among the triples, so none is taken for a space.
      have kept : ((String.utf8EncodeChar c).flatMap Percent.encodeByte).map spaced =
          (String.utf8EncodeChar c).flatMap Percent.encodeByte := by
        refine (List.map_congr_left fun d mem => if_neg ?_).trans (List.map_id _)
        rintro rfl
        exact absurd (Percent.mem_encodeBytes mem) (by decide)
      rw [kept]
      exact Percent.decode_encodeBytes _ bs

/-- **What is written for a text is read as the text.** -/
theorem decodeText_encodeText (s : String) : decodeText (encodeText s) = s := by
  have bytes : ∀ cs : List Char,
      Percent.decode (((cs.flatMap encodeChar).map spaced).flatMap String.utf8EncodeChar) =
        cs.flatMap String.utf8EncodeChar := by
    intro cs
    induction cs with
    | nil => rfl
    | cons c cs ih =>
      rw [List.flatMap_cons, List.map_append, List.flatMap_append, decode_encodeChar, ih,
        List.flatMap_cons]
  have read := bytes s.toList
  rw [decodeText]
  simp only [encodeText]
  rw [read, Utf8.decodeLossy, Utf8.scan_encode, List.map_map]
  have chars : s.toList.map ((fun c => c.getD Utf8.replacement) ∘ some) = s.toList :=
    List.map_id s.toList
  rw [chars, String.ofList_toList]

/-! ### Pairs -/

theorem encodePair_ne_nil (p : String × String) : encodePair p ≠ [] := by simp [encodePair]

theorem not_mem_encodeText {mark : Char} (other : isWritten mark = false) (s : String) :
    mark ∉ encodeText s :=
  fun mem => Bool.false_ne_true (other.symm.trans (isWritten_of_mem mem))

theorem not_mem_encodePair {mark : Char} (other : isPairChar mark = false) (p : String × String) :
    mark ∉ encodePair p :=
  fun mem => Bool.false_ne_true (other.symm.trans (isPairChar_of_mem mem))

theorem decodePair_encodePair (p : String × String) : decodePair (encodePair p) = p := by
  have unmarked : ∀ c ∈ encodeText p.1, (c == '=') = false := by
    intro c mem
    rw [beq_eq_false_iff_ne]
    rintro rfl
    exact not_mem_encodeText (by decide) p.1 mem
  have cut : Text.cutAt? (· == '=') (encodePair p) = some (encodeText p.1, encodeText p.2) :=
    Text.cutAt?_append_cons unmarked rfl
  rw [decodePair, cut]
  simp only [decodeText_encodeText]

theorem pieces_of_not_mem {sep : Char} {cs : List Char} (h : sep ∉ cs) : pieces sep cs = [cs] := by
  induction cs with
  | nil => rfl
  | cons c cs ih =>
    rw [List.mem_cons, not_or] at h
    rw [pieces, ih h.2]
    exact if_neg (Ne.symm h.1)

theorem pieces_ne_nil (sep : Char) (cs : List Char) : pieces sep cs ≠ [] := by
  cases cs with
  | nil => exact List.cons_ne_nil _ _
  | cons c cs =>
    rw [pieces]
    split
    · exact List.cons_ne_nil _ _
    · split <;> exact List.cons_ne_nil _ _

/-- A piece is part of the text, and the separator is not in it. -/
theorem mem_pieces {sep : Char} {cs q : List Char} (h : q ∈ pieces sep cs) :
    ∀ c ∈ q, c ∈ cs ∧ c ≠ sep := by
  induction cs generalizing q with
  | nil =>
    obtain rfl := List.mem_singleton.mp h
    simp
  | cons d cs ih =>
    have more : ∀ {q}, q ∈ pieces sep cs → ∀ c ∈ q, c ∈ d :: cs ∧ c ≠ sep := fun mem c hc =>
      (ih mem c hc).imp_left (List.mem_cons_of_mem d)
    rw [pieces] at h
    split at h
    · next empty => exact absurd empty (pieces_ne_nil sep cs)
    · next q' qs parts =>
      rw [parts] at more
      split at h
      · rcases List.mem_cons.mp h with rfl | mem
        · simp
        · exact more mem
      · next other =>
        rcases List.mem_cons.mp h with rfl | mem
        · rw [List.forall_mem_cons]
          exact ⟨⟨List.mem_cons_self, other⟩, more List.mem_cons_self⟩
        · exact more (List.mem_cons_of_mem _ mem)

/-- A separator parts the pieces before it from those after it. -/
theorem pieces_append (sep : Char) (front back : List Char) :
    pieces sep (front ++ sep :: back) = pieces sep front ++ pieces sep back := by
  induction front with
  | nil =>
    obtain ⟨q, qs, eq⟩ := List.exists_cons_of_ne_nil (pieces_ne_nil sep back)
    have parted : pieces sep (sep :: back) = [] :: pieces sep back := by
      rw [pieces, eq]
      exact if_pos rfl
    exact parted
  | cons c front ih =>
    obtain ⟨q, qs, eq⟩ := List.exists_cons_of_ne_nil (pieces_ne_nil sep front)
    rw [List.cons_append, pieces, pieces, ih, eq, List.cons_append]
    dsimp only
    split <;> rfl

theorem pieces_append_cons {sep : Char} {front : List Char} (h : sep ∉ front) (back : List Char) :
    pieces sep (front ++ sep :: back) = front :: pieces sep back := by
  rw [pieces_append, pieces_of_not_mem h, List.singleton_append]

/-- The pairs before a separator are read apart from those after it. -/
theorem decode_append (front back : List Char) :
    decode (front ++ '&' :: back) = decode front ++ decode back := by
  rw [decode, pieces_append, List.filter_append, List.map_append, decode, decode]

/-- Texts without the separator are found again between the separators. -/
theorem pieces_intercalate {sep : Char} {qs : List (List Char)} (h : ∀ q ∈ qs, sep ∉ q)
    (some : qs ≠ []) : pieces sep ([sep].intercalate qs) = qs := by
  induction qs with
  | nil => exact absurd rfl some
  | cons q qs ih =>
    rw [List.forall_mem_cons] at h
    cases qs with
    | nil => rw [List.intercalate_singleton, pieces_of_not_mem h.1]
    | cons q' qs =>
      rw [List.intercalate_cons_cons, List.append_assoc, List.singleton_append,
        pieces_append_cons h.1, ih h.2 (List.cons_ne_nil _ _)]

theorem pieces_pairs {ps : List (String × String)} (some : ps ≠ []) :
    pieces '&' (['&'].intercalate (ps.map encodePair)) = ps.map encodePair := by
  refine pieces_intercalate (fun q mem => ?_) (by simpa using some)
  obtain ⟨p, -, rfl⟩ := List.mem_map.mp mem
  exact not_mem_encodePair (by decide) p

/-- **Pairs that are written are read as the pairs.** -/
theorem decode_encode (ps : List (String × String)) : decode (encode ps).toList = ps := by
  rw [encode, String.toList_ofList]
  cases ps with
  | nil => rfl
  | cons p ps =>
    have given : ∀ q ∈ (p :: ps).map encodePair, (!q.isEmpty) = true := by
      intro q mem
      obtain ⟨p, -, rfl⟩ := List.mem_map.mp mem
      simpa using encodePair_ne_nil p
    have back : (p :: ps).map (decodePair ∘ encodePair) = p :: ps :=
      (List.map_congr_left fun p _ => decodePair_encodePair p).trans (List.map_id _)
    rw [decode, pieces_pairs (List.cons_ne_nil _ _), List.filter_eq_self.mpr given, List.map_map,
      back]

theorem decode_encodePair (key value : String) :
    decode (encodePair (key, value)) = [(key, value)] := by
  have alone := decode_encode [(key, value)]
  rwa [encode, String.toList_ofList, List.map_singleton, List.intercalate_singleton] at alone

/-- The characters that a form is written in, its separators included. -/
def isFormChar (c : Char) : Bool := isPairChar c || c == '&'

theorem toNat_lt_of_isFormChar {c : Char} (h : isFormChar c = true) : c.toNat < 128 := by
  rw [isFormChar, Bool.or_eq_true, beq_iff_eq] at h
  rcases h with pair | rfl
  · exact toNat_lt_of_isPairChar pair
  · decide

theorem isFormChar_of_isPairChar {c : Char} (h : isPairChar c = true) : isFormChar c = true := by
  simp [isFormChar, h]

/-- A form is written without white space. -/
theorem isBlank_of_isFormChar {c : Char} (h : isFormChar c = true) : Text.isBlank c = false :=
  Text.forall_ascii (P := fun c => isFormChar c = true → Text.isBlank c = false) (by decide)
    (toNat_lt_of_isFormChar h) h

/-- Between pairs stands the separator, and nothing else beside what the pairs are written in. -/
theorem isFormChar_of_mem_encode {ps : List (String × String)} {c : Char}
    (h : c ∈ (encode ps).toList) : isFormChar c = true := by
  rw [encode, String.toList_ofList] at h
  induction ps with
  | nil => exact absurd h List.not_mem_nil
  | cons p ps ih =>
    cases ps with
    | nil =>
      rw [List.map_singleton, List.intercalate_singleton] at h
      exact isFormChar_of_isPairChar (isPairChar_of_mem h)
    | cons p' ps =>
      rw [List.map_cons, List.map_cons, List.intercalate_cons_cons, List.append_assoc,
        List.singleton_append] at h
      rcases List.mem_append.mp h with mem | mem
      · exact isFormChar_of_isPairChar (isPairChar_of_mem mem)
      · rcases List.mem_cons.mp mem with rfl | mem
        · rfl
        · exact ih mem

/-- A text that is left out, or written in the characters of a form. -/
def IsForm (form : Option (List Char)) : Prop := ∀ cs ∈ form, ∀ c ∈ cs, isFormChar c = true

theorem isForm_none : IsForm none := fun _ mem => nomatch mem

theorem isForm_some {cs : List Char} (h : ∀ c ∈ cs, isFormChar c = true) : IsForm (some cs) := by
  rintro _ ⟨⟩
  exact h

theorem isForm_encode (ps : List (String × String)) : IsForm (some (encode ps).toList) :=
  isForm_some fun _ => isFormChar_of_mem_encode

theorem encode_ne_nil {ps : List (String × String)} (some : ps ≠ []) :
    (encode ps).toList ≠ [] := by
  intro empty
  have read := decode_encode ps
  rw [empty] at read
  exact some read.symm

end Form

end AdminConsole
