/-!
# Double precision by exact arithmetic

The non-negative finite numbers of the binary64 format as a whole number times a power of two, and
the rounding of a quotient of whole numbers to the nearest of them (`round?`): half goes to the
even neighbour, and a quotient too large for the format has none. Nothing here is done in floating
point, so a result can be computed in a proof. -/

namespace AdminConsole

/-- The number `mantissa * 2 ^ exponent`, with at most 53 bits and exponent at least -1074. -/
structure Binary64 where
  mantissa : Nat
  exponent : Int
  deriving DecidableEq

namespace Binary64

def zero : Binary64 := ⟨0, -1074⟩

def isZero (x : Binary64) : Bool := x.mantissa == 0

/-- The quotient as numerator and denominator. -/
def ratio (x : Binary64) : Nat × Nat :=
  if x.exponent < 0 then (x.mantissa, Nat.pow 2 (-x.exponent).toNat)
  else (x.mantissa * Nat.pow 2 x.exponent.toNat, 1)

/-- The nearest whole number, half to even. -/
def divHalfEven (num den : Nat) : Nat :=
  let q := num / den
  let r := 2 * (num % den)
  if r < den then q else if den < r then q + 1 else q + q % 2

/-- `num / den` in units of `2 ^ e`, rounded. -/
def inUnits (num den : Nat) (e : Int) : Nat :=
  if e < 0 then divHalfEven (num * Nat.pow 2 (-e).toNat) den
  else divHalfEven num (den * Nat.pow 2 e.toNat)

/-- The unit in the last place of numbers of the size of `num / den`. -/
def unitOf (num den : Nat) : Int :=
  let guess : Int := (num.log2 : Int) - den.log2
  let tooLarge :=
    if guess < 0 then num * Nat.pow 2 (-guess).toNat < den else num < den * Nat.pow 2 guess.toNat
  let size := if tooLarge then guess - 1 else guess
  max (size - 52) (-1074)

/-- The nearest number of the format, unless it would have to be infinite. -/
def round? (num den : Nat) : Option Binary64 :=
  if num = 0 then some zero
  else
    let e := unitOf num den
    let m := inUnits num den e
    let x : Binary64 := if m = Nat.pow 2 53 then ⟨Nat.pow 2 52, e + 1⟩ else ⟨m, e⟩
    if x.exponent > 971 then none else some x

def ofNat? (n : Nat) : Option Binary64 := round? n 1

def mul? (x y : Binary64) : Option Binary64 :=
  round? (x.ratio.1 * y.ratio.1) (x.ratio.2 * y.ratio.2)

/-- A quotient by a number that is not zero. -/
def div? (x y : Binary64) : Option Binary64 :=
  round? (x.ratio.1 * y.ratio.2) (x.ratio.2 * y.ratio.1)

end Binary64

end AdminConsole
