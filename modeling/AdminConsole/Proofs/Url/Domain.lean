import AdminConsole.Proofs.Text.Form
import AdminConsole.Url.Host

/-!
# Plain domain names

A name of small letters is its own ASCII form: nothing in it is folded or composed, and its letters
are written from left to right (`DomainName.toAscii?_of_letters`). So it is read as the domain that
it names (`Host.parse_of_letters`). -/

namespace AdminConsole

/-! ### Composition -/

namespace Compose

variable {n : Nat} {ns : List Nat}

theorem classOf_of_lt (h : n < 0x300) : classOf n = 0 := by
  simp only [classOf, if_pos h]

-- The equations of `split` hold the table of compositions, which Lean would evaluate.
theorem split_of_lt (h : n < 0xC0) : split 4 n = [n] := by
  have all : ∀ n < 0xC0, split 4 n = [n] := by decide +kernel
  exact all n h

theorem inOrder_of_lt (h : ∀ n ∈ ns, n < 0x300) : inOrder ns = ns := by
  have pushed : ∀ acc, ns.foldl (fun acc n => insertMark n acc) acc = ns.reverse ++ acc := by
    induction ns with
    | nil => exact fun _ => rfl
    | cons n ns ih =>
      rw [List.forall_mem_cons] at h
      intro acc
      have first : insertMark n acc = n :: acc := by
        cases acc with
        | nil => rfl
        | cons m ms => exact if_neg fun mark => mark.1 (classOf_of_lt h.1)
      rw [List.foldl_cons, first, ih h.2, List.reverse_cons, List.append_assoc,
        List.singleton_append]
  rw [inOrder, pushed, List.append_nil, List.reverse_reverse]

/-- Below the first mark nothing joins. -/
theorem foldl_add_of_lt (h : ∀ n ∈ ns, n < 0x300) (done : List Nat) (base : Nat) :
    ∃ done' base', ns.foldl Joining.add ⟨done, some base, []⟩ = ⟨done', some base', []⟩ ∧
      done' ++ [base'] = done ++ base :: ns := by
  induction ns generalizing done base with
  | nil => exact ⟨done, base, rfl, rfl⟩
  | cons n ns ih =>
    rw [List.forall_mem_cons] at h
    have apart : join? base n = none := by rw [join?, if_pos h.1]
    have next : Joining.add ⟨done, some base, []⟩ n = ⟨done ++ [base], some n, []⟩ := by
      simp [Joining.add, apart, classOf_of_lt h.1]
    obtain ⟨done', base', eq, whole⟩ := ih h.2 (done ++ [base]) n
    exact ⟨done', base', by rw [List.foldl_cons, next, eq], by rw [whole]; simp⟩

theorem joined_of_lt (h : ∀ n ∈ ns, n < 0x300) : joined ns = ns := by
  cases ns with
  | nil => rfl
  | cons n ns =>
    rw [List.forall_mem_cons] at h
    have first : Joining.add ⟨[], none, []⟩ n = ⟨[], some n, []⟩ := if_pos (classOf_of_lt h.1)
    obtain ⟨done, base, eq, whole⟩ := foldl_add_of_lt h.2 [] n
    rw [joined, List.foldl_cons, first, eq]
    exact whole

/-- **A text of ASCII characters is composed as it stands.** -/
theorem normal_of_lt (h : ∀ n ∈ ns, n < 0xC0) : normal ns = ns := by
  have apart : ns.flatMap (split 4) = ns := by
    induction ns with
    | nil => rfl
    | cons n ns ih =>
      rw [List.forall_mem_cons] at h
      rw [List.flatMap_cons, split_of_lt h.1, ih h.2, List.singleton_append]
  have marks : ∀ n ∈ ns, n < 0x300 := fun n mem => Nat.lt_trans (h n mem) (by decide)
  rw [normal, apart, inOrder_of_lt marks, joined_of_lt marks]

end Compose

/-! ### Small letters -/

/-- A small letter of ASCII. -/
def isLetter (c : Char) : Bool := 'a' ≤ c && c ≤ 'z'

theorem toNat_of_isLetter {c : Char} (h : isLetter c = true) : 97 ≤ c.toNat ∧ c.toNat ≤ 122 := by
  simpa [isLetter, Char.le_def, UInt32.le_iff_toNat_le] using h

theorem toNat_lt_of_isLetter {c : Char} (h : isLetter c = true) : c.toNat < 128 :=
  Nat.lt_of_le_of_lt (toNat_of_isLetter h).2 (by decide)

namespace Direction

theorem inRuns_of_lt {runs : List (List Nat)} {bound n : Nat}
    (above : ∀ run ∈ runs, bound ≤ run.headD 0) (h : n < bound) :
    DomainTable.inRuns runs n = false := by
  rw [DomainTable.inRuns, List.any_eq_false]
  intro run mem
  have first := above run mem
  match run with
  | [] => simp
  | [lo] => simp
  | lo :: hi :: _ =>
    have low : ¬ lo ≤ n := Nat.not_le_of_lt (Nat.lt_of_lt_of_le h first)
    simp [low]

/-- No ASCII character is written from right to left. -/
theorem isLeftward_ofChar {c : Char} (h : c.toNat < 128) : isLeftward (ofChar c) = false := by
  have letters : ∀ run ∈ leftwardRuns, 128 ≤ run.headD 0 := by
    rw [leftwardRuns, DomainTable.rows, DomainTable.leftwardRows, String.toList_join]
    decide +kernel
  have digits : ∀ run ∈ arabicDigitRuns, 128 ≤ run.headD 0 := by
    rw [arabicDigitRuns, DomainTable.rows, DomainTable.arabicDigitRows, String.toList_join]
    decide +kernel
  rw [ofChar, inRuns_of_lt letters h, inRuns_of_lt digits h]
  simp only [Bool.false_eq_true, if_false]
  split
  · rfl
  · split
    · rfl
    · split <;> rfl

/-- The direction of a name in ASCII does not matter. -/
theorem consistent_of_ascii {label : List Char} (h : ∀ c ∈ label, c.toNat < 128) :
    consistent [label] = true := by
  have rightward : ([label].map fun label => label.map ofChar).any
      (fun label => label.any isLeftward) = false := by
    rw [List.map_singleton, List.any_cons, List.any_nil, Bool.or_false, List.any_map,
      List.any_eq_false]
    intro c mem
    rw [Function.comp_apply, isLeftward_ofChar (h c mem)]
    exact Bool.false_ne_true
  simp only [consistent, rightward, Bool.not_false, Bool.true_or]

end Direction

namespace DomainName

variable {cs : List Char}

theorem fold_of_letters (h : ∀ c ∈ cs, isLetter c = true) : fold cs = cs := by
  have codes : cs.flatMap (fun c => foldCode c.toNat) = cs.map Char.toNat := by
    induction cs with
    | nil => rfl
    | cons c cs ih =>
      rw [List.forall_mem_cons] at h
      have first : foldCode c.toNat = [c.toNat] := Text.forall_ascii
        (P := fun c => isLetter c = true → foldCode c.toNat = [c.toNat]) (by decide)
        (toNat_lt_of_isLetter h.1) h.1
      rw [List.flatMap_cons, first, ih h.2, List.map_cons, List.singleton_append]
  have ascii : ∀ n ∈ cs.map Char.toNat, n < 0xC0 := by
    intro n mem
    obtain ⟨c, hc, rfl⟩ := List.mem_map.mp mem
    exact Nat.lt_of_le_of_lt (toNat_of_isLetter (h c hc)).2 (by decide)
  rw [fold, codes, Compose.normal_of_lt ascii, List.map_map]
  exact (List.map_congr_left fun c _ => Char.ofNat_toNat c).trans (List.map_id cs)

theorem isAscii_of_letters (h : ∀ c ∈ cs, isLetter c = true) : isAscii cs = true := by
  rw [isAscii, List.all_eq_true]
  exact fun c mem => decide_eq_true (toNat_lt_of_isLetter (h c mem))

theorem readLabel?_of_letters (h : ∀ c ∈ cs, isLetter c = true) : readLabel? cs = some cs := by
  have allowed : cs.any isForbidden = false := by
    rw [List.any_eq_false]
    exact fun c mem => Text.forall_ascii (P := fun c => isLetter c = true → ¬ isForbidden c = true)
      (by decide) (toNat_lt_of_isLetter (h c mem)) (h c mem)
  unfold readLabel?
  split
  · exact absurd (h '-' (by simp)) (by decide)
  · rw [allowed, isAscii_of_letters h]
    rfl

/-- **A name of small letters is its own ASCII form.** -/
theorem toAscii?_of_letters (h : ∀ c ∈ cs, isLetter c = true) : toAscii? cs = some cs := by
  have one : Form.pieces '.' cs = [cs] := Form.pieces_of_not_mem fun mem =>
    absurd (h '.' mem) (by decide)
  have consistent : Direction.consistent [cs] = true :=
    Direction.consistent_of_ascii fun c mem => toNat_lt_of_isLetter (h c mem)
  have passes : (guard (Direction.consistent [cs] = true) : Option Unit) = some () :=
    if_pos consistent
  have read : [cs].mapM readLabel? = some [cs] := by simp [readLabel?_of_letters h]
  have written : writeLabel cs = cs := if_pos (isAscii_of_letters h)
  rw [toAscii?, fold_of_letters h, one, read, Option.bind_eq_bind, Option.bind_some, passes,
    Option.bind_eq_bind, Option.bind_some, List.map_singleton, written, List.intercalate_singleton]
  rfl

end DomainName

namespace Host

variable {cs : List Char}

theorem not_isDigit_of_isLetter {c : Char} (h : isLetter c = true) : c.isDigit = false :=
  Text.forall_ascii (P := fun c => isLetter c = true → c.isDigit = false) (by decide)
    (toNat_lt_of_isLetter h) h

/-- A text that starts with a letter is no number. -/
theorem number?_of_letter {c : Char} (h : isLetter c = true) : number? (c :: cs) = none := by
  have noZero : c ≠ '0' := by
    rintro rfl
    exact absurd h (by decide)
  unfold number?
  split
  · rfl
  · next eq => exact absurd (List.cons.inj eq).1 noZero
  · next eq => exact absurd (List.cons.inj eq).1 noZero
  · next eq => exact absurd (List.cons.inj eq).1 noZero
  · simp [not_isDigit_of_isLetter h]

theorem endsInNumber_of_letters (h : ∀ c ∈ cs, isLetter c = true) : endsInNumber cs = false := by
  have one : Form.pieces '.' cs = [cs] := Form.pieces_of_not_mem fun mem =>
    absurd (h '.' mem) (by decide)
  have label : (labels cs).getLast? = some cs := by simp [labels, one]
  rw [endsInNumber, label]
  cases cs with
  | nil => rfl
  | cons c cs =>
    have letter := h c List.mem_cons_self
    simp [number?_of_letter letter, not_isDigit_of_isLetter letter]

/-- **A name of small letters is a domain.** -/
theorem parse_of_letters (h : ∀ c ∈ cs, isLetter c = true) (named : cs ≠ []) :
    parse cs = .ok (.domain (String.ofList cs)) := by
  have noBrackets : bracketed? cs = none := by
    unfold bracketed?
    split
    · exact absurd (h '[' List.mem_cons_self) (by decide)
    · rfl
  have bytes : Percent.decode (cs.flatMap String.utf8EncodeChar) =
      cs.flatMap String.utf8EncodeChar := by
    refine Percent.decode_of_not_mem fun mem => ?_
    obtain ⟨c, hc, mem⟩ := List.mem_flatMap.mp mem
    rw [Utf8.encode_ascii (toNat_lt_of_isLetter (h c hc)), List.mem_singleton] at mem
    exact Text.forall_ascii (P := fun c => isLetter c = true → 0x25 ≠ UInt8.ofNat c.toNat)
      (by decide) (toNat_lt_of_isLetter (h c hc)) (h c hc) mem
  have decoded : Utf8.decodeLossy (cs.flatMap String.utf8EncodeChar) = String.ofList cs := by
    rw [Utf8.decodeLossy, Utf8.scan_encode, List.map_map]
    exact congrArg String.ofList (List.map_id cs)
  unfold parse
  rw [noBrackets]
  simp only [bytes, decoded, String.toList_ofList, DomainName.toAscii?_of_letters h]
  cases cs with
  | nil => exact absurd rfl named
  | cons c cs =>
    simp only [endsInNumber_of_letters h]
    rfl

end Host

end AdminConsole
