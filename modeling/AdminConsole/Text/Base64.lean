/-!
# Base 64

Bytes in groups of three, each written as four characters; a group that is short is filled up. -/

namespace AdminConsole.Base64

def alphabet : List Char :=
  "ABCDEFGHIJKLMNOPQRSTUVWXYZabcdefghijklmnopqrstuvwxyz0123456789+/".toList

/-- The character of the `i`th group of six bits from the end. -/
def digit (n i : Nat) : Char := alphabet.getD (n / Nat.pow 64 i % 64) '='

def encodeChars : List UInt8 → List Char
  | [] => []
  | [a] =>
    let n := a.toNat * 65536
    [digit n 3, digit n 2, '=', '=']
  | [a, b] =>
    let n := a.toNat * 65536 + b.toNat * 256
    [digit n 3, digit n 2, digit n 1, '=']
  | a :: b :: c :: rest =>
    let n := a.toNat * 65536 + b.toNat * 256 + c.toNat
    digit n 3 :: digit n 2 :: digit n 1 :: digit n 0 :: encodeChars rest

def encode (bytes : List UInt8) : String := String.ofList (encodeChars bytes)

end AdminConsole.Base64
