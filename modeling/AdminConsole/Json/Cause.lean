import AdminConsole.Json.Numeral
import AdminConsole.Text.Quoted

/-!
# Why a document is refused

Either the text is no JSON at some place, or a value is not of the kind that is wanted there. Each
cause has one wording (`Cause.message`). -/

namespace AdminConsole.Json

/-- What was met where something else was wanted. -/
inductive Found where
  | null
  | bool (b : Bool)
  | number (n : Number)
  | string (s : String)
  | sequence
  | map
  deriving DecidableEq

inductive Cause where
  | endInList
  | endInObject
  | endInString
  | endInValue
  | colonExpected
  | listGoesOn
  | objectGoesOn
  | wordExpected
  | valueExpected
  | badEscape
  | badNumber
  | numberTooLarge
  | badCodePoint
  | controlCharacter
  | keyExpected
  | loneSurrogate
  | unfinishedPair
  | commaAtEnd
  | textAfterEnd
  | tooDeep
  | wrongType (found : Found) (wanted : String)
  | wrongValue (found : Found) (wanted : String)
  | wrongLength (length : Nat) (wanted : String)
  | missingField (name : String)
  | duplicateField (name : String)
  | unknownVariant (name : String) (known : List String)
  /-- The value is of none of the kinds that a name stands for. -/
  | noAlternative (name : String)
  deriving DecidableEq

def Number.text : Number → String
  | natural n => "integer \x60" ++ toString n ++ "\x60"
  | negative n => "integer \x60-" ++ toString n ++ "\x60"
  | double minus x =>
    "floating point \x60" ++ (if minus then "-" else "") ++ (Decimal.shortest x).text ++ "\x60"

def Found.text : Found → String
  | null => "null"
  | bool b => "boolean \x60" ++ (if b then "true" else "false") ++ "\x60"
  | number n => n.text
  | string s => "string " ++ Text.quoted s
  | sequence => "sequence"
  | map => "map"

/-- A name in backquotes. -/
def ticked (name : String) : String := "\x60" ++ name ++ "\x60"

/-- The choice among names. -/
def oneOf : List String → String
  | [] => "there are no variants"
  | [a] => ticked a
  | [a, b] => ticked a ++ " or " ++ ticked b
  | names => "one of " ++ ", ".intercalate (names.map ticked)

def Cause.message : Cause → String
  | endInList => "EOF while parsing a list"
  | endInObject => "EOF while parsing an object"
  | endInString => "EOF while parsing a string"
  | endInValue => "EOF while parsing a value"
  | colonExpected => "expected " ++ ticked ":"
  | listGoesOn => "expected " ++ ticked "," ++ " or " ++ ticked "]"
  | objectGoesOn => "expected " ++ ticked "," ++ " or " ++ ticked "\x7d"
  | wordExpected => "expected ident"
  | valueExpected => "expected value"
  | badEscape => "invalid escape"
  | badNumber => "invalid number"
  | numberTooLarge => "number out of range"
  | badCodePoint => "invalid unicode code point"
  | controlCharacter => "control character (\\u0000-\\u001F) found while parsing a string"
  | keyExpected => "key must be a string"
  | loneSurrogate => "lone leading surrogate in hex escape"
  | unfinishedPair => "unexpected end of hex escape"
  | commaAtEnd => "trailing comma"
  | textAfterEnd => "trailing characters"
  | tooDeep => "recursion limit exceeded"
  | wrongType found wanted => "invalid type: " ++ found.text ++ ", expected " ++ wanted
  | wrongValue found wanted => "invalid value: " ++ found.text ++ ", expected " ++ wanted
  | wrongLength length wanted =>
    "invalid length " ++ toString length ++ ", expected " ++ wanted
  | missingField name => "missing field " ++ ticked name
  | duplicateField name => "duplicate field " ++ ticked name
  | unknownVariant name known =>
    "unknown variant " ++ ticked name ++ ", expected " ++ oneOf known
  | noAlternative name => "data did not match any variant of untagged enum " ++ name

end AdminConsole.Json
