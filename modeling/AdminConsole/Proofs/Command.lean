import AdminConsole.Command
import AdminConsole.Proofs.Text.Blank

/-!
# Commands are read as they are written

A line is read by the first character in it that is no white space: a slash starts a path
(`Command.parse_of_slash`), and anything else a word (`Command.parse_of_word`). The text of a path
after the word `go` is read as the path without the white space around it (`Command.parse_go`), and
a path that a line gives has none. So the spellings of a command agree
(`Command.spellings_agree`). -/

namespace AdminConsole.Command

/-- The words that name a command, in small letters. -/
def words : List String :=
  ["go", "nav", "accept", "logout", "whoami", "refresh", "help", "?", "quit", "exit"]

/-- The first character of a line that is no white space. -/
def firstChar? (line : String) : Option Char := line.toList.find? fun c => !Text.isBlank c

/-- What stands from there on to the next white space. -/
def firstWord (line : String) : String :=
  String.ofList ((line.toList.dropWhile Text.isBlank).takeWhile fun c => !Text.isBlank c)

/-- What follows the first word of a line and the white space that ends it. -/
def afterWord (line : String) : String :=
  String.ofList ((Text.trim line).toList.dropWhile fun c => !Text.isBlank c).tail

variable {line word rest path : String}

/-! ### Words -/

theorem ofWord?_eq_none_iff : ofWord? word rest = none ↔ word ∉ words := by
  constructor
  · intro none mem
    simp only [words, List.mem_cons, List.not_mem_nil, or_false] at mem
    rcases mem with rfl | rfl | rfl | rfl | rfl | rfl | rfl | rfl | rfl | rfl <;>
      exact nomatch none
  · intro other
    unfold ofWord?
    split
    case h_11 => rfl
    all_goals exact absurd (by decide) other

/-- A known word is never reported as unknown. -/
theorem ne_unknown_of_ofWord? {result : Except ParseError Command}
    (h : ofWord? word rest = some result) (unknown : String) :
    result ≠ .error (.unknown unknown) := by
  rintro rfl
  unfold ofWord? at h
  split at h
  case h_1 | h_2 =>
    dsimp only at h
    split at h <;> simp at h
  all_goals simp at h

/-! ### Lines -/

theorem head?_trim (line : String) : (Text.trim line).toList.head? = firstChar? line := by
  rw [Text.trim, Text.strip, String.toList_ofList, Text.head?_stripChars, firstChar?]

theorem takeWhile_trim (line : String) :
    String.ofList ((Text.trim line).toList.takeWhile fun c => !Text.isBlank c) =
      firstWord line := by
  rw [Text.trim, Text.strip, String.toList_ofList, Text.takeWhile_stripChars, firstWord]

theorem parse_of_blank (h : firstChar? line = none) : parse line = .ok none := by
  have empty : (Text.trim line).toList = [] := List.head?_eq_none_iff.mp (head?_trim line ▸ h)
  simp only [parse, empty]

/-- A path alone is gone to. -/
theorem parse_of_slash (h : firstChar? line = some '/') :
    parse line = .ok (some (.go (Text.trim line))) := by
  obtain ⟨cs, slash⟩ := List.head?_eq_some_iff.mp (head?_trim line ▸ h)
  simp only [parse, slash]

/-- The reading of a line that starts with a word. -/
def byWord (word rest : String) : Except ParseError (Option Command) :=
  match ofWord? (Text.toAsciiLower word) rest with
  | some command => command.map some
  | none => .error (.unknown word)

/-- Any other line is read by its first word. -/
theorem parse_of_word {c : Char} (h : firstChar? line = some c) (other : c ≠ '/') :
    parse line = byWord (firstWord line) (afterWord line) := by
  obtain ⟨cs, start⟩ := List.head?_eq_some_iff.mp (head?_trim line ▸ h)
  rw [← takeWhile_trim]
  unfold parse
  dsimp only
  split
  · next empty => exact nomatch start.symm.trans empty
  · next slash => exact absurd (List.cons.inj (start.symm.trans slash)).1 other
  · simp only [Text.getD_cutAt?]
    rfl

theorem byWord_eq_unknown_iff {unknown : String} : byWord word rest = .error (.unknown unknown) ↔
    Text.toAsciiLower word ∉ words ∧ unknown = word := by
  have none_iff : ofWord? (Text.toAsciiLower word) rest = none ↔ _ := ofWord?_eq_none_iff
  rw [byWord, ← none_iff]
  split
  · next result found =>
    have known := ne_unknown_of_ofWord? found unknown
    cases result with
    | ok command => simp [Except.map, found]
    | error e => simpa [Except.map, found] using known
  · next none => simp [none, eq_comm]

theorem parse_pad {front back : String} (hf : Text.isAllBlank front = true)
    (hb : Text.isAllBlank back = true) : parse (front ++ line ++ back) = parse line := by
  unfold parse
  rw [Text.trim_append hf hb]

/-! ### Going to a path -/

theorem trim_afterWord_go (text : String) :
    Text.trim (afterWord ("go " ++ text)) = Text.trim text := by
  obtain ⟨back, hb, eq⟩ := Text.exists_back Text.isBlank (' ' :: text.toList)
  have go : ("go " ++ text).toList = ['g', 'o'] ++ (' ' :: text.toList) := by
    rw [String.toList_append]
    rfl
  have letter : ∀ c ∈ ['g', 'o'].getLast?, Text.isBlank c = false := by
    rintro c ⟨⟩
    rfl
  have trimmed : (Text.trim ("go " ++ text)).toList =
      ['g', 'o'] ++ Text.dropEndWhile Text.isBlank (' ' :: text.toList) := by
    rw [Text.trim, Text.strip, String.toList_ofList, go, Text.stripChars,
      List.cons_append, List.dropWhile_cons_of_neg (by decide), ← List.cons_append,
      Text.dropEndWhile_append_of_last letter]
  rw [afterWord, trimmed, Text.trim, Text.strip, String.toList_ofList, Text.trim, Text.strip]
  -- Only the white space at the end of the text is gone, and with a blank text the space as well.
  refine congrArg String.ofList ?_
  have last : ∀ cs : List Char, text.toList = cs ++ back →
      Text.stripChars Text.isBlank cs = Text.stripChars Text.isBlank text.toList := by
    intro cs split
    rw [split, ← List.nil_append cs, Text.stripChars_append (by simp) hb, List.nil_append]
  cases left : Text.dropEndWhile Text.isBlank (' ' :: text.toList) with
  | nil =>
    rw [left, List.nil_append] at eq
    have blank : ∀ c ∈ text.toList, Text.isBlank c = true := fun c mem =>
      hb c (eq ▸ List.mem_cons_of_mem _ mem)
    have none : Text.stripChars Text.isBlank ([] ++ [] ++ text.toList) = [] :=
      Text.stripChars_append (by simp) blank
    exact none.symm
  | cons d ds =>
    rw [left, List.cons_append] at eq
    obtain ⟨rfl, split⟩ := List.cons.inj eq
    exact last ds split

/-- The word `go` in front of a text, with a space in between. -/
theorem parse_go (text : String) : parse ("go " ++ text) =
    if (Text.trim text).isEmpty then .error .missingPath
    else .ok (some (.go (Text.trim text))) := by
  have start : firstChar? ("go " ++ text) = some 'g' := by
    rw [firstChar?, String.toList_append]
    rfl
  have word : firstWord ("go " ++ text) = "go" := by
    rw [firstWord, String.toList_append]
    rfl
  have lower : Text.toAsciiLower "go" = "go" := by decide +kernel
  rw [parse_of_word start (by decide), word, byWord, lower, ofWord?, trim_afterWord_go]
  dsimp only
  split <;> rfl

/-- A word that goes to a path goes to the rest of its line, without the white space around it. -/
theorem path_of_ofWord? (h : ofWord? word rest = some (.ok (.go path))) :
    path = Text.trim rest ∧ path.isEmpty = false := by
  unfold ofWord? at h
  split at h
  case h_1 | h_2 =>
    dsimp only at h
    split at h
    · simp at h
    · next given =>
      obtain rfl : Text.trim rest = path := by simpa using h
      exact ⟨rfl, by simpa using given⟩
  all_goals simp at h

/-- A path that is gone to has no white space around it, and something is in it. -/
theorem trim_of_parse (h : parse line = .ok (some (.go path))) :
    Text.trim path = path ∧ path.isEmpty = false := by
  cases start : firstChar? line with
  | none =>
    rw [parse_of_blank start] at h
    exact nomatch h
  | some c =>
    by_cases slash : c = '/'
    · subst slash
      rw [parse_of_slash start] at h
      obtain rfl : Text.trim line = path := by simpa using h
      refine ⟨Text.trim_trim line, ?_⟩
      rw [← head?_trim] at start
      by_contra empty
      rw [Bool.not_eq_false, String.isEmpty_iff] at empty
      rw [empty] at start
      exact nomatch start
    · rw [parse_of_word start slash, byWord] at h
      split at h
      · next result found =>
        cases result with
        | error cause => exact nomatch h
        | ok command =>
          obtain rfl : command = .go path := by simpa [Except.map] using h
          obtain ⟨rfl, given⟩ := path_of_ofWord? found
          exact ⟨Text.trim_trim _, given⟩
      · exact nomatch h

/-- **The text of a command that a line gives is read as the command.** -/
theorem parse_text {c : Command} (h : parse line = .ok (some c)) : parse c.text = .ok (some c) := by
  cases c with
  | go path =>
    obtain ⟨trimmed, given⟩ := trim_of_parse h
    rw [text, parse_go, trimmed, given]
    rfl
  | accept | logout | whoami | refresh | help | quit => decide +kernel

/-! ### The law of lines -/

/-- **The spellings of a command agree.** White space around a line does not matter, the text of a
command is read as the command, and a path alone is gone to as it is after `go`. A line is refused
as unknown, with its first word as it stands, exactly if it is no path and the word names no
command, whatever the case of its letters. -/
theorem spellings_agree (line : String) :
    (∀ front back : String, Text.isAllBlank front = true → Text.isAllBlank back = true →
      parse (front ++ line ++ back) = parse line) ∧
    (∀ c, parse line = .ok (some c) → parse c.text = .ok (some c)) ∧
    (firstChar? line = some '/' →
      parse line = .ok (some (.go (Text.trim line))) ∧ parse ("go " ++ line) = parse line) ∧
    ∀ word, parse line = .error (.unknown word) ↔
      (∃ c, firstChar? line = some c ∧ c ≠ '/') ∧
        Text.toAsciiLower (firstWord line) ∉ words ∧ word = firstWord line := by
  refine ⟨fun front back hf hb => parse_pad hf hb, fun c => parse_text, fun slash => ?_,
    fun word => ?_⟩
  · have path := parse_of_slash slash
    rw [parse_go, (trim_of_parse path).2, path]
    exact ⟨rfl, rfl⟩
  · cases start : firstChar? line with
    | none => simp [parse_of_blank start]
    | some c =>
      by_cases slash : c = '/'
      · subst slash
        simp [parse_of_slash start]
      · rw [parse_of_word start slash, byWord_eq_unknown_iff]
        simp [slash]

/-- A path after a word in capitals and a no-break space, a path alone, and an unknown word. -/
theorem spellings_agree_nav :
    parse ("\u3000" ++ "NAV\u00A0 /a\tb" ++ "\r\n") = .ok (some (.go "/a\tb")) ∧
      parse (text (.go "/a\tb")) = .ok (some (.go "/a\tb")) ∧
      parse ("go " ++ "\u2003/x?y z ") = .ok (some (.go "/x?y z")) ∧
      parse " gö now" = .error (.unknown "gö") := by
  have nav : parse "NAV\u00A0 /a\tb" = .ok (some (.go "/a\tb")) := by decide +kernel
  obtain ⟨padded, written, -⟩ := spellings_agree "NAV\u00A0 /a\tb"
  obtain ⟨-, -, path, -⟩ := spellings_agree "\u2003/x?y z "
  obtain ⟨alone, same⟩ := path (by decide +kernel)
  obtain ⟨-, -, -, unknown⟩ := spellings_agree " gö now"
  refine ⟨?_, written _ nav, ?_, ?_⟩
  · rw [padded _ _ (by decide) (by decide), nav]
  · rw [same, alone]
    decide +kernel
  · rw [unknown]
    exact ⟨⟨'g', by decide +kernel, by decide⟩, by decide +kernel, by decide +kernel⟩

end AdminConsole.Command
