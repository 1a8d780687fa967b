import AdminConsole.Json.Token

/-!
# Reading a document

`read` turns any bytes into a document. The count that the readers go down by is no limit on
documents: three times the number of bytes is always enough, because of three calls in a row one
takes a byte. -/

namespace AdminConsole.Json

/-- What follows a value: nothing can, once the value breaks off. -/
abbrev Rest := Option Bytes

def wordAt (v : Value) (word bs : Bytes) : Value × Rest :=
  match skipWord word bs with
  | .ok rest => (v, some rest)
  | .error c => (.gap (.word c), none)

def numberAt (negative : Bool) (bs : Bytes) : Value × Rest :=
  match numeral negative bs with
  | .ok (n, rest) => (.number n, some rest)
  | .error g => (.gap g, none)

/-- A string after its opening quote: its text and the rest, or the two causes. -/
def stringAt (bs : Bytes) : Except (Cause × Cause) (Except Cause String × Bytes) :=
  match skipString .plain bs with
  | .ok rest => .ok (stringText bs, rest)
  | .error c =>
    match stringText bs with
    | .ok _ => .error (c, c)
    | .error c' => .error (c', c)

mutual

def readValue : Nat → Bytes → Value × Rest
  | 0, _ => (.gap .atEnd, none)
  | fuel + 1, bs =>
    match skipSpace bs with
    | [] => (.gap .atEnd, none)
    | b :: bs =>
      if b = 110 then wordAt .null [117, 108, 108] bs
      else if b = 116 then wordAt (.bool true) [114, 117, 101] bs
      else if b = 102 then wordAt (.bool false) [97, 108, 115, 101] bs
      else if b = 45 then numberAt true bs
      else if isDigit b then numberAt false (b :: bs)
      else if b = 34 then
        match stringAt bs with
        | .ok (text, rest) => (.string text, some rest)
        | .error (c, c') => (.gap (.text c c'), none)
      else if b = 91 then
        let (items, rest) := readItems fuel true bs
        (.array items, rest)
      else if b = 123 then
        let (members, rest) := readMembers fuel true bs
        (.object members, rest)
      else (.gap .stray, none)

/-- The items up to the closing bracket; `first` if none has been read. -/
def readItems : Nat → Bool → Bytes → Items × Rest
  | 0, _, _ => (.stop .atEnd, none)
  | fuel + 1, first, bs =>
    match skipSpace bs with
    | [] => (.stop .atEnd, none)
    | b :: bs =>
      if b = 93 then (.close, some bs)
      else if first then readItem fuel (b :: bs)
      else if b = 44 then
        match skipSpace bs with
        | [] => (.stop .atEndAfterComma, none)
        | b :: bs => if b = 93 then (.stop .comma, none) else readItem fuel (b :: bs)
      else (.stop .noComma, none)

def readItem : Nat → Bytes → Items × Rest
  | 0, _ => (.stop .atEnd, none)
  | fuel + 1, bs =>
    match readValue fuel bs with
    | (v, none) => (.item v (.stop .atEnd), none)
    | (v, some rest) =>
      let (items, rest) := readItems fuel false rest
      (.item v items, rest)

/-- The members up to the closing brace. -/
def readMembers : Nat → Bool → Bytes → Members × Rest
  | 0, _, _ => (.atEnd, none)
  | fuel + 1, first, bs =>
    match skipSpace bs with
    | [] => (.atEnd, none)
    | b :: bs =>
      if b = 125 then (.close, some bs)
      else if first then readMember fuel (b :: bs)
      else if b = 44 then
        match skipSpace bs with
        | [] => (.atEndAfterComma, none)
        | b :: bs => if b = 125 then (.comma, none) else readMember fuel (b :: bs)
      else (.noComma, none)

def readMember : Nat → Bytes → Members × Rest
  | 0, _ => (.atEnd, none)
  | fuel + 1, bs =>
    match bs with
    | 34 :: bs =>
      match stringAt bs with
      | .error (c, c') => (.badKey c c', none)
      | .ok (key, rest) =>
        match skipSpace rest with
        | 58 :: rest =>
          match readValue fuel rest with
          | (v, none) => (.member key v .atEnd, none)
          | (v, some rest) =>
            let (members, rest) := readMembers fuel false rest
            (.member key v members, rest)
        | [] => (.member key (.gap (.colon .endInObject)) .atEnd, none)
        | _ :: _ => (.member key (.gap (.colon .colonExpected)) .atEnd, none)
    | bs => (.noKey (readValue fuel bs).1, none)

end

def read (bs : Bytes) : Document :=
  match readValue (3 * bs.length + 3) bs with
  | (v, none) => ⟨v, false⟩
  | (v, some rest) => ⟨v, !(skipSpace rest).isEmpty⟩

end AdminConsole.Json
