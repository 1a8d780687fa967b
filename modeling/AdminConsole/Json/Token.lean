import AdminConsole.Json.Tree
import AdminConsole.Text.Utf8

/-!
# Tokens

Words, numerals and strings at the head of the bytes of a document. A string is found first
(`skipString`), which settles where it ends, and its text is read on its own (`stringText`). -/

namespace AdminConsole.Json

abbrev Bytes := List UInt8

def isSpace (b : UInt8) : Bool := b == 0x20 || b == 0x0A || b == 0x09 || b == 0x0D

def skipSpace (bs : Bytes) : Bytes := bs.dropWhile isSpace

/-- The bytes after a word. -/
def skipWord : Bytes → Bytes → Except Cause Bytes
  | [], bs => .ok bs
  | _ :: _, [] => .error .endInValue
  | w :: ws, b :: bs => if b = w then skipWord ws bs else .error .wordExpected

/-! ### Numerals -/

def isDigit (b : UInt8) : Bool := 48 ≤ b && b ≤ 57

def digits (bs : Bytes) : List Nat := (bs.takeWhile isDigit).map fun b => b.toNat - 48

def skipDigits (bs : Bytes) : Bytes := bs.dropWhile isDigit

/-- Digits of which there has to be one. -/
def someDigits (bs : Bytes) : Except Gap (List Nat × Bytes) :=
  match bs with
  | [] => .error (.number .endInValue .badNumber)
  | b :: _ =>
    if isDigit b then .ok (digits bs, skipDigits bs) else .error (.number .badNumber .badNumber)

/-- One zero, or digits that do not start with zero. -/
def wholePart (bs : Bytes) : Except Gap (List Nat × Bytes) :=
  match bs with
  | 48 :: b :: _ =>
    if isDigit b then .error (.number .badNumber .badNumber) else .ok ([0], bs.drop 1)
  | _ => someDigits bs

def fractionPart (bs : Bytes) : Except Gap (List Nat × Bytes) :=
  match bs with
  | 46 :: bs => someDigits bs
  | _ => .ok ([], bs)

def exponentPart (bs : Bytes) : Except Gap (Option (Bool × List Nat) × Bytes) :=
  match bs with
  | b :: bs' =>
    if b = 101 ∨ b = 69 then
      let (down, bs') := match bs' with
        | 43 :: r => (false, r)
        | 45 :: r => (true, r)
        | r => (false, r)
      (someDigits bs').map fun (ds, rest) => (some (down, ds), rest)
    else .ok (none, bs)
  | [] => .ok (none, [])

/-- The numeral after its sign. -/
def numeral (negative : Bool) (bs : Bytes) : Except Gap (Numeral × Bytes) := do
  let (whole, bs) ← wholePart bs
  let (fraction, bs) ← fractionPart bs
  let (exponent, bs) ← exponentPart bs
  return (⟨negative, whole, fraction, exponent⟩, bs)

/-! ### Strings -/

def hexDigit? (b : UInt8) : Option Nat :=
  let n := b.toNat
  if 48 ≤ n ∧ n ≤ 57 then some (n - 48)
  else if 65 ≤ n ∧ n ≤ 70 then some (n - 55)
  else if 97 ≤ n ∧ n ≤ 102 then some (n - 87)
  else none

/-- The byte that a letter after a backslash stands for. -/
def escaped? (b : UInt8) : Option UInt8 :=
  match b with
  | 34 => some 34
  | 92 => some 92
  | 47 => some 47
  | 98 => some 8
  | 102 => some 12
  | 110 => some 10
  | 114 => some 13
  | 116 => some 9
  | _ => none

/-- Where in a string the next byte stands. `code` has read some of four hexadecimal digits, whose
value is lost once one of them is none; `pair` and `pairCode` follow a high surrogate. -/
inductive InString where
  | plain
  | escape
  | code (high : Option Nat) (seen : Nat) (value : Option Nat)
  | pair (high : Nat)
  | pairEscape (high : Nat)

/-- The value with one more digit. -/
def addDigit (value : Option Nat) (b : UInt8) : Option Nat :=
  match value, hexDigit? b with
  | some v, some d => some (16 * v + d)
  | _, _ => none

/-- The bytes after the closing quote. -/
def skipString : InString → Bytes → Except Cause Bytes
  | _, [] => .error .endInString
  | .plain, b :: bs =>
    if b = 34 then .ok bs
    else if b = 92 then skipString .escape bs
    else if b < 32 then .error .controlCharacter
    else skipString .plain bs
  | .escape, b :: bs =>
    if b = 117 then
      if bs.length < 4 then .error .endInString else skipString (.code none 0 (some 0)) bs
    else match escaped? b with
      | some _ => skipString .plain bs
      | none => .error .badEscape
  | .code high seen value, b :: bs =>
    let value := addDigit value b
    if seen < 3 then skipString (.code high (seen + 1) value) bs
    else match value with
      | some _ => skipString .plain bs
      | none => .error .badEscape
  | .pair _, _ :: bs => skipString .plain bs
  | .pairEscape _, _ :: bs => skipString .plain bs

def utf8Of (code : Nat) : Bytes := String.utf8EncodeChar (Char.ofNat code)

def isHigh (code : Nat) : Bool := 0xD800 ≤ code && code ≤ 0xDBFF

def isLow (code : Nat) : Bool := 0xDC00 ≤ code && code ≤ 0xDFFF

/-- The character of two surrogates. -/
def pairCode (high low : Nat) : Nat := (high - 0xD800) * 0x400 + (low - 0xDC00) + 0x10000

/-- The bytes that a string stands for, up to its closing quote. -/
def stringBytes : InString → Bytes → Except Cause Bytes
  | _, [] => .error .endInString
  | .plain, b :: bs =>
    if b = 34 then .ok []
    else if b = 92 then stringBytes .escape bs
    else if b < 32 then .error .controlCharacter
    else (stringBytes .plain bs).map (b :: ·)
  | .escape, b :: bs =>
    if b = 117 then
      if bs.length < 4 then .error .endInString else stringBytes (.code none 0 (some 0)) bs
    else match escaped? b with
      | some c => (stringBytes .plain bs).map (c :: ·)
      | none => .error .badEscape
  | .code high seen value, b :: bs =>
    let value := addDigit value b
    if seen < 3 then stringBytes (.code high (seen + 1) value) bs
    else match value, high with
      | none, _ => .error .badEscape
      | some v, none =>
        if isLow v then .error .loneSurrogate
        else if isHigh v then stringBytes (.pair v) bs
        else (stringBytes .plain bs).map (utf8Of v ++ ·)
      | some v, some h =>
        if isLow v then (stringBytes .plain bs).map (utf8Of (pairCode h v) ++ ·)
        else .error .loneSurrogate
  | .pair h, b :: bs => if b = 92 then stringBytes (.pairEscape h) bs else .error .unfinishedPair
  | .pairEscape h, b :: bs =>
    if b = 117 then
      if bs.length < 4 then .error .endInString else stringBytes (.code (some h) 0 (some 0)) bs
    else .error .unfinishedPair

/-- The text of a string after its opening quote. -/
def stringText (bs : Bytes) : Except Cause String := do
  match Utf8.decode? (← stringBytes .plain bs) with
  | some s => return s
  | none => throw .badCodePoint

end AdminConsole.Json
