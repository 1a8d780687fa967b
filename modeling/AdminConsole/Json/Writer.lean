/-!
# Writing documents

Data as JSON in two layouts: on one line, and in the stable layout of files, with two spaces for
each level and a line break at the end. Reading either back gives the data again. -/

namespace AdminConsole.Json

inductive Data where
  | null
  | bool (b : Bool)
  | natural (n : Nat)
  | string (s : String)
  | array (items : List Data)
  | object (members : List (String × Data))

namespace Data

def ofOption : Option String → Data
  | none => null
  | some s => string s

def ofTexts (ss : List String) : Data := array (ss.map string)

end Data

/-! ### Strings -/

def lowerDigit (n : Nat) : Char := Char.ofNat (if n < 10 then 48 + n else 87 + n)

/-- Only quotes, backslashes and controls are escaped. -/
def escapeChar (c : Char) : List Char :=
  if c = '"' then ['\\', '"']
  else if c = '\\' then ['\\', '\\']
  else if c.toNat = 8 then ['\\', 'b']
  else if c.toNat = 12 then ['\\', 'f']
  else if c = '\n' then ['\\', 'n']
  else if c = '\r' then ['\\', 'r']
  else if c = '\t' then ['\\', 't']
  else if c.toNat < 32 then
    ['\\', 'u', '0', '0', lowerDigit (c.toNat / 16), lowerDigit (c.toNat % 16)]
  else [c]

def quote (s : String) : List Char := '"' :: s.toList.flatMap escapeChar ++ ['"']

def scalar : Data → List Char
  | .null => "null".toList
  | .bool true => "true".toList
  | .bool false => "false".toList
  | .natural n => (toString n).toList
  | .string s => quote s
  | .array _ => "[]".toList
  | .object _ => "\x7b\x7d".toList

/-! ### On one line -/

mutual

def compactChars : Data → List Char
  | .array (x :: xs) => '[' :: compactChars x ++ compactItems xs
  | .object ((k, x) :: ms) => '\x7b' :: quote k ++ ':' :: compactChars x ++ compactMembers ms
  | d => scalar d

/-- What follows the first item. -/
def compactItems : List Data → List Char
  | [] => [']']
  | x :: xs => ',' :: compactChars x ++ compactItems xs

def compactMembers : List (String × Data) → List Char
  | [] => ['\x7d']
  | (k, x) :: ms => ',' :: quote k ++ ':' :: compactChars x ++ compactMembers ms

end

def compact (d : Data) : String := String.ofList (compactChars d)

/-! ### On many lines -/

def newline (level : Nat) : List Char := '\n' :: List.replicate (2 * level) ' '

mutual

def stableChars (level : Nat) : Data → List Char
  | .array (x :: xs) =>
    '[' :: newline (level + 1) ++ stableChars (level + 1) x ++ stableItems level xs
  | .object ((k, x) :: ms) =>
    '\x7b' :: newline (level + 1) ++ quote k ++ ':' :: ' ' :: stableChars (level + 1) x ++
      stableMembers level ms
  | d => scalar d

def stableItems (level : Nat) : List Data → List Char
  | [] => newline level ++ [']']
  | x :: xs => ',' :: newline (level + 1) ++ stableChars (level + 1) x ++ stableItems level xs

def stableMembers (level : Nat) : List (String × Data) → List Char
  | [] => newline level ++ ['\x7d']
  | (k, x) :: ms =>
    ',' :: newline (level + 1) ++ quote k ++ ':' :: ' ' :: stableChars (level + 1) x ++
      stableMembers level ms

end

def stable (d : Data) : String := String.ofList (stableChars 0 d ++ ['\n'])

end AdminConsole.Json
