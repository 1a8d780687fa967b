import AdminConsole.Text.Utf8

/-!
# Input

The bytes that a user types, as lines. A line ends at a line feed, and a carriage return before it
goes with it. Lines are read up to the first that is no text. -/

namespace AdminConsole.Input

/-- The bytes between line feeds; nothing follows the last one. -/
def cut : List UInt8 → List (List UInt8)
  | [] => []
  | b :: bs =>
    if b = 10 then [b] :: cut bs
    else match cut bs with
      | [] => [[b]]
      | line :: lines => (b :: line) :: lines

/-- The line without what ends it. -/
def chomp (bs : List UInt8) : List UInt8 :=
  match bs.reverse with
  | 10 :: 13 :: rest => rest.reverse
  | 10 :: rest => rest.reverse
  | _ => bs

structure Lines where
  lines : List String
  /-- Whether the lines go on with bytes that are no text. -/
  broken : Bool
  deriving DecidableEq

def read : List (List UInt8) → Lines
  | [] => ⟨[], false⟩
  | bs :: rest =>
    match Utf8.decode? bs with
    | none => ⟨[], true⟩
    | some _ =>
      let more := read rest
      ⟨(Utf8.decode? (chomp bs)).getD "" :: more.lines, more.broken⟩

def lines (bs : List UInt8) : Lines := read (cut bs)

def notText : String := "io error: stream did not contain valid UTF-8"

end AdminConsole.Input
