import AdminConsole.Text.Utf8

/-!
# Percent encoding

A byte is written as a percent sign and its two hexadecimal digits. Which characters are written
so is up to the place in a URL; characters outside ASCII always are. -/

namespace AdminConsole.Percent

def upperDigit (n : Nat) : Char := Char.ofNat (if n < 10 then 48 + n else 55 + n)

def digit? (b : UInt8) : Option Nat :=
  let n := b.toNat
  if 48 ≤ n ∧ n ≤ 57 then some (n - 48)
  else if 65 ≤ n ∧ n ≤ 70 then some (n - 55)
  else if 97 ≤ n ∧ n ≤ 102 then some (n - 87)
  else none

def encodeByte (b : UInt8) : List Char :=
  ['%', upperDigit (b.toNat / 16), upperDigit (b.toNat % 16)]

def encodeChar (special : Char → Bool) (c : Char) : List Char :=
  if c.toNat < 128 && !special c then [c] else (String.utf8EncodeChar c).flatMap encodeByte

/-- Writes the characters of the class, and those outside ASCII, as percent triples. -/
def encode (special : Char → Bool) (cs : List Char) : List Char := cs.flatMap (encodeChar special)

/-- Reads percent triples back; a percent sign without two digits stands for itself. -/
def decode : List UInt8 → List UInt8
  | [] => []
  | [a] => [a]
  | [a, b] => [a, b]
  | a :: b :: c :: rest =>
    if a = 0x25 then
      match digit? b, digit? c with
      | some x, some y => UInt8.ofNat (16 * x + y) :: decode rest
      | _, _ => a :: decode (b :: c :: rest)
    else a :: decode (b :: c :: rest)

end AdminConsole.Percent
