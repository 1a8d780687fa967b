import AdminConsole.Number.Shortest

/-!
# Numbers in a document

A numeral as it is written and the number it stands for. Whole numbers up to 64 bits are kept as
they are; everything else is a double, which is built from the first digits that fit 64 bits and a
power of ten. A numeral has no value (`value?`) only if that double would be infinite. -/

namespace AdminConsole.Json

structure Numeral where
  negative : Bool
  whole : List Nat
  fraction : List Nat
  /-- Whether the exponent is negative, and its digits. -/
  exponent : Option (Bool × List Nat)
  deriving DecidableEq

inductive Number where
  | natural (n : Nat)
  /-- The number `-n`. -/
  | negative (n : Nat)
  | double (negative : Bool) (x : Binary64)
  deriving DecidableEq

namespace Numeral

def maxNatural : Nat := 0xFFFFFFFFFFFFFFFF

/-- Adds digits while they fit, and says how many did not. -/
def gather (acc : Nat) : List Nat → Nat × Nat
  | [] => (acc, 0)
  | d :: ds => if acc * 10 + d > maxNatural then (acc, ds.length + 1) else gather (acc * 10 + d) ds

def maxExponent : Nat := 0x7FFFFFFF

/-- A power of ten as a double. -/
def tenPow (n : Nat) : Binary64 := (Binary64.round? (Nat.pow 10 n) 1).getD .zero

/-- `x * 10 ^ e`, by one multiplication or division once `e` is small enough. -/
def scale? : Nat → Binary64 → Int → Option Binary64
  | 0, x, _ => some x
  | fuel + 1, x, e =>
    if e.natAbs ≤ 308 then
      if e ≥ 0 then x.mul? (tenPow e.natAbs) else x.div? (tenPow e.natAbs)
    else if x.isZero then some x
    else if e ≥ 0 then none
    else (x.div? (tenPow 308)).bind fun y => scale? fuel y (e + 308)

def double? (negative : Bool) (significand : Nat) (e : Int) : Option Number :=
  let x := (Binary64.ofNat? significand).bind fun x => scale? 4 x e
  x.map (Number.double negative)

/-- The exponent's digits as a number, unless they pass 31 bits. -/
def exponentSize? (ds : List Nat) : Option Nat :=
  let n := ds.foldl (fun n d => n * 10 + d) 0
  if n > maxExponent then none else some n

def withExponent? (m : Numeral) (significand : Nat) (e : Int) : Option Number :=
  match m.exponent with
  | none => double? m.negative significand e
  | some (down, ds) =>
    match exponentSize? ds with
    | some n => double? m.negative significand (if down then e - n else e + n)
    | none => if significand ≠ 0 ∧ !down then none else some (.double m.negative .zero)

def value? (m : Numeral) : Option Number :=
  let (significand, dropped) := gather 0 m.whole
  if dropped = 0 ∧ m.fraction = [] ∧ m.exponent = none then
    if !m.negative then some (.natural significand)
    else if significand = 0 ∨ significand > 0x8000000000000000 then double? true significand 0
    else some (.negative significand)
  else
    let (more, beyond) := gather significand m.fraction
    m.withExponent? more (dropped - (m.fraction.length - beyond : Nat))

end Numeral

end AdminConsole.Json
