import AdminConsole.Url.DomainName

/-!
# Hosts

The host of a URL: an address, a domain name, or, in a URL of a scheme of its own, a text. A domain
name that ends in a number is an address or nothing. -/

namespace AdminConsole

inductive UrlError where
  | emptyHost
  | badDomain
  | badPort
  | badIpv4
  | badIpv6
  | badHostCharacter
  | noScheme
  deriving DecidableEq

def UrlError.message : UrlError → String
  | emptyHost => "empty host"
  | badDomain => "invalid international domain name"
  | badPort => "invalid port number"
  | badIpv4 => "invalid IPv4 address"
  | badIpv6 => "invalid IPv6 address"
  | badHostCharacter => "invalid domain character"
  | noScheme => "relative URL without a base"

inductive Host where
  | domain (name : String)
  | ipv4 (address : Nat)
  | ipv6 (pieces : List Nat)
  deriving DecidableEq

namespace Host

/-! ### Addresses of four numbers -/

def digitsToNat (base : Nat) (cs : List Char) : Nat :=
  cs.foldl (fun n c => base * n + (Percent.digit? (UInt8.ofNat c.toNat)).getD 0) 0

def isHexDigit (c : Char) : Bool := c.toNat < 128 && (Percent.digit? (UInt8.ofNat c.toNat)).isSome

/-- A number in the notation that its first characters choose. -/
def number? (cs : List Char) : Option Nat :=
  match cs with
  | [] => none
  | '0' :: 'x' :: ds | '0' :: 'X' :: ds =>
    if ds.all isHexDigit then some (digitsToNat 16 ds) else none
  | '0' :: d :: ds =>
    if (d :: ds).all (fun c => '0' ≤ c && c ≤ '7') then some (digitsToNat 8 (d :: ds)) else none
  | ds => if ds.all Char.isDigit then some (digitsToNat 10 ds) else none

/-- The labels of a name, less an empty one at the end. -/
def labels (cs : List Char) : List (List Char) :=
  let ls := Form.pieces '.' cs
  if ls.length > 1 ∧ ls.getLast? = some [] then ls.dropLast else ls

def endsInNumber (cs : List Char) : Bool :=
  match (labels cs).getLast? with
  | some l => (!l.isEmpty && l.all Char.isDigit) || (number? l).isSome
  | none => false

/-- All numbers but the last are bytes; the last fills what is left. -/
def parseIpv4 (cs : List Char) : Except UrlError Nat :=
  let parts := labels cs
  if parts.length > 4 then .error .badIpv4
  else match parts.mapM number? with
    | none => .error .badIpv4
    | some numbers =>
      let front := numbers.dropLast
      let last := numbers.getLast?.getD 0
      if last ≥ Nat.pow 256 (4 - front.length) ∨ front.any (· > 255) then .error .badIpv4
      else .ok ((front.zipIdx.map fun (n, i) => n * Nat.pow 256 (3 - i)).foldl (· + ·) last)

def ipv4Text (n : Nat) : String :=
  ".".intercalate ([3, 2, 1, 0].map fun i => toString (n / Nat.pow 256 i % 256))

/-! ### Addresses of eight pieces -/

/-- Four decimal bytes without leading zeros. -/
def byte? (cs : List Char) : Option Nat :=
  match cs with
  | ['0'] => some 0
  | d :: _ =>
    if cs.all Char.isDigit ∧ d ≠ '0' ∧ cs.length ≤ 3 ∧ digitsToNat 10 cs ≤ 255 then
      some (digitsToNat 10 cs) else none
  | [] => none

/-- The two pieces that four bytes make. -/
def bytePieces? (cs : List Char) : Option (List Nat) :=
  match (Form.pieces '.' cs).mapM byte? with
  | some [a, b, c, d] => some [256 * a + b, 256 * c + d]
  | _ => none

def piece? (cs : List Char) : Option Nat :=
  if cs.isEmpty || cs.length > 4 || !cs.all isHexDigit then none else some (digitsToNat 16 cs)

/-- Pieces between colons, of which the last may be four bytes. -/
def pieces? : List (List Char) → Option (List Nat)
  | [] => some []
  | [p] => ((piece? p).map ([·])).or (bytePieces? p)
  | p :: ps => do return (← piece? p) :: (← pieces? ps)

/-- The text before and after the first two colons in a row. -/
def cutDouble? : List Char → Option (List Char × List Char)
  | ':' :: ':' :: rest => some ([], rest)
  | c :: cs => (cutDouble? cs).map fun (a, b) => (c :: a, b)
  | [] => none

def pieceList? (cs : List Char) : Option (List Nat) :=
  if cs.isEmpty then some [] else pieces? (Form.pieces ':' cs)

/-- Two colons stand for as many zeros as are missing, at least one. -/
def parseIpv6 (cs : List Char) : Except UrlError (List Nat) :=
  let found : Option (List Nat) :=
    match cutDouble? cs with
    | some (before, after) => do
      let front ← pieceList? before
      if before.contains '.' then none
      let back ← pieceList? after
      if front.length + back.length ≤ 7 then
        some (front ++ List.replicate (8 - front.length - back.length) 0 ++ back)
      else none
    | none => do
      let all ← pieceList? cs
      if all.length = 8 then some all else none
  match found with
  | some pieces => .ok pieces
  | none => .error .badIpv6

/-- Where the longest run of two or more zeros starts, the first of several, and its length. -/
def longestZeros (pieces : List Nat) : Nat × Nat :=
  let runs := (List.range pieces.length).map fun i =>
    (i, ((pieces.drop i).takeWhile (· == 0)).length)
  let best := runs.foldl (fun best run => if run.2 > best.2 then run else best) (0, 0)
  if best.2 < 2 then (pieces.length, 0) else best

def hexText (n : Nat) : String := String.ofList (Nat.toDigits 16 n)

def ipv6Text (pieces : List Nat) : String :=
  let join (ps : List Nat) := ":".intercalate (ps.map hexText)
  let (start, length) := longestZeros pieces
  if length = 0 then join pieces
  else join (pieces.take start) ++ "::" ++ join (pieces.drop (start + length))

/-! ### Texts of hosts -/

def text : Host → String
  | domain name => name
  | ipv4 n => ipv4Text n
  | ipv6 pieces => "[" ++ ipv6Text pieces ++ "]"

/-- An address in brackets, if the text starts with one. -/
def bracketed? (cs : List Char) : Option (Except UrlError Host) :=
  match cs with
  | '[' :: rest =>
    some (if rest.getLast? = some ']' then (parseIpv6 rest.dropLast).map ipv6 else .error .badIpv6)
  | _ => none

/-- The host of a URL whose scheme has a meaning of its own. -/
def parse (cs : List Char) : Except UrlError Host :=
  match bracketed? cs with
  | some h => h
  | none => do
    let decoded := Utf8.decodeLossy (Percent.decode (cs.flatMap String.utf8EncodeChar))
    match DomainName.toAscii? decoded.toList with
    | none => throw .badDomain
    | some [] => throw .emptyHost
    | some name =>
      if endsInNumber name then return .ipv4 (← parseIpv4 name)
      else return .domain (String.ofList name)

def isForbiddenInText (c : Char) : Bool :=
  "\x00\t\n\r #/:<>?@[\\]^|".toList.contains c

def isControl (c : Char) : Bool := c.toNat < 0x20 || c.toNat == 0x7F

/-- The host of any other URL, whose text is only encoded. -/
def parseText (cs : List Char) : Except UrlError Host :=
  match bracketed? cs with
  | some h => h
  | none =>
    if cs.any isForbiddenInText then .error .badHostCharacter
    else .ok (.domain (String.ofList (Percent.encode isControl cs)))

end Host

end AdminConsole
