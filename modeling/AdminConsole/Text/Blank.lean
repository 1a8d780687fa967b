/-!
# White space

The characters with the Unicode property `White_Space`, and what is left of a text once a class
of characters is taken off its ends. A text counts as given only if something other than white
space is in it (`given?`). -/

namespace AdminConsole.Text

/-- The property `White_Space`. Zero-width spaces and the byte order mark do not have it. -/
def isBlank (c : Char) : Bool :=
  let n := c.toNat
  (9 ≤ n && n ≤ 13) || n == 0x20 || n == 0x85 || n == 0xA0 || n == 0x1680 ||
    (0x2000 ≤ n && n ≤ 0x200A) || n == 0x2028 || n == 0x2029 || n == 0x202F || n == 0x205F ||
    n == 0x3000

/-! ### Ends of a list of characters -/

def dropEndWhile (p : Char → Bool) (cs : List Char) : List Char :=
  (cs.reverse.dropWhile p).reverse

/-- Takes the characters of a class off both ends. -/
def stripChars (p : Char → Bool) (cs : List Char) : List Char :=
  dropEndWhile p (cs.dropWhile p)

/-! ### Strings -/

def stripStart (p : Char → Bool) (s : String) : String :=
  String.ofList (s.toList.dropWhile p)

def stripEnd (p : Char → Bool) (s : String) : String :=
  String.ofList (dropEndWhile p s.toList)

def strip (p : Char → Bool) (s : String) : String :=
  String.ofList (stripChars p s.toList)

/-- The text without the white space around it. -/
def trim (s : String) : String := strip isBlank s

/-- Nothing but white space, or nothing at all. -/
def isAllBlank (s : String) : Bool := s.toList.all isBlank

/-- A text that is missing or blank is not given. -/
def given? (s : Option String) : Option String := s.filter fun t => !isAllBlank t

/-- The two parts around the first character of a class, which belongs to neither. -/
def cutAt? (p : Char → Bool) (cs : List Char) : Option (List Char × List Char) :=
  match cs.dropWhile (fun c => !p c) with
  | [] => none
  | _ :: rest => some (cs.takeWhile (fun c => !p c), rest)

/-- Folds the letters `A` to `Z` and leaves every other character alone. -/
def toAsciiLower (s : String) : String := s.map Char.toLower

end AdminConsole.Text
