import AdminConsole.Text.Percent
import AdminConsole.Text.Blank

/-!
# Form-encoded pairs

Keys and values in a query: `&` between pairs, `=` between key and value, `+` for a space. What
`encode` writes, `decode` reads back as the same pairs; `decode` also reads every other text, with
bytes that are no UTF-8 replaced. -/

namespace AdminConsole.Form

/-- The characters that stand for themselves. -/
def isPlain (c : Char) : Bool :=
  c.isAlphanum || c == '*' || c == '-' || c == '.' || c == '_'

def encodeChar (c : Char) : List Char :=
  if c = ' ' then ['+'] else Percent.encodeChar (fun c => !isPlain c) c

def encodeText (s : String) : List Char := s.toList.flatMap encodeChar

def encodePair (p : String × String) : List Char := encodeText p.1 ++ '=' :: encodeText p.2

def encode (ps : List (String × String)) : String :=
  String.ofList (['&'].intercalate (ps.map encodePair))

/-! ### Reading -/

def decodeText (cs : List Char) : String :=
  let spaced := cs.map fun c => if c = '+' then ' ' else c
  Utf8.decodeLossy (Percent.decode (spaced.flatMap String.utf8EncodeChar))

/-- The pieces between separators, empty ones included. -/
def pieces (sep : Char) : List Char → List (List Char)
  | [] => [[]]
  | c :: cs =>
    match pieces sep cs with
    | [] => [[c]]
    | p :: ps => if c = sep then [] :: p :: ps else (c :: p) :: ps

def decodePair (cs : List Char) : String × String :=
  match Text.cutAt? (· == '=') cs with
  | some (k, v) => (decodeText k, decodeText v)
  | none => (decodeText cs, "")

def decode (cs : List Char) : List (String × String) :=
  ((pieces '&' cs).filter (!·.isEmpty)).map decodePair

end AdminConsole.Form
