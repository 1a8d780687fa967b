/-!
# UTF-8

Texts as bytes. Reading goes byte by byte through `scan`, which answers a character for every
well-formed sequence and `none` for every maximal piece that begins a sequence and does not end
one; `decode?` refuses a text with such a piece and `decodeLossy` puts the replacement character
in its place. -/

namespace AdminConsole.Utf8

def encode (s : String) : List UInt8 := s.toList.flatMap String.utf8EncodeChar

/-- What has been read of a sequence: nothing, or its bits so far, with the number of bytes that
are still due and the bounds of the next one. -/
inductive Pending where
  | idle
  | due (bits left lo hi : Nat)
  deriving DecidableEq

/-- A byte where a sequence may start. -/
def start (b : Nat) : List (Option Char) × Pending :=
  if b < 0x80 then ([some (Char.ofNat b)], .idle)
  else if b < 0xC2 then ([none], .idle)
  else if b < 0xE0 then ([], .due (b - 0xC0) 1 0x80 0xBF)
  else if b = 0xE0 then ([], .due 0 2 0xA0 0xBF)
  else if b = 0xED then ([], .due 0xD 2 0x80 0x9F)
  else if b < 0xF0 then ([], .due (b - 0xE0) 2 0x80 0xBF)
  else if b = 0xF0 then ([], .due 0 3 0x90 0xBF)
  else if b < 0xF4 then ([], .due (b - 0xF0) 3 0x80 0xBF)
  else if b = 0xF4 then ([], .due 4 3 0x80 0x8F)
  else ([none], .idle)

def scan : Pending → List UInt8 → List (Option Char)
  | .idle, [] => []
  | .due _ _ _ _, [] => [none]
  | .idle, b :: bs => (start b.toNat).1 ++ scan (start b.toNat).2 bs
  | .due bits left lo hi, b :: bs =>
    if lo ≤ b.toNat ∧ b.toNat ≤ hi then
      let bits := bits * 64 + (b.toNat - 0x80)
      if left ≤ 1 then some (Char.ofNat bits) :: scan .idle bs
      else scan (.due bits (left - 1) 0x80 0xBF) bs
    else none :: ((start b.toNat).1 ++ scan (start b.toNat).2 bs)

/-- The text, if the bytes are well-formed. -/
def decode? (bs : List UInt8) : Option String :=
  ((scan .idle bs).mapM id).map String.ofList

def replacement : Char := Char.ofNat 0xFFFD

/-- The text, with the replacement character for every ill-formed piece. -/
def decodeLossy (bs : List UInt8) : String :=
  String.ofList ((scan .idle bs).map (·.getD replacement))

end AdminConsole.Utf8
