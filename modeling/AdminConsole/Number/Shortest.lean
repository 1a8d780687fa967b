import AdminConsole.Number.Binary64

/-!
# The shortest decimal that reads back

Every decimal in the interval around a number rounds to the number. `Decimal.shortest` takes the
one with the fewest digits, and of those the nearest to the number. The interval and the decimals
are compared as quotients of whole numbers. -/

namespace AdminConsole

/-- The number `digits * 10 ^ exponent`. -/
structure Decimal where
  digits : Nat
  exponent : Int
  deriving DecidableEq

namespace Decimal

/-- A quotient of whole numbers. -/
structure Ratio where
  num : Nat
  den : Nat

def Ratio.lt (x y : Ratio) : Bool := decide (x.num * y.den < y.num * x.den)

def ratio (d : Decimal) : Ratio :=
  if d.exponent < 0 then ⟨d.digits, Nat.pow 10 (-d.exponent).toNat⟩
  else ⟨d.digits * Nat.pow 10 d.exponent.toNat, 1⟩

/-- The points half way to the neighbours of a number, and whether they still round to it. -/
def interval (x : Binary64) : Ratio × Ratio × Bool :=
  let quarter (n : Nat) : Ratio :=
    let e := x.exponent - 2
    if e < 0 then ⟨n, Nat.pow 2 (-e).toNat⟩ else ⟨n * Nat.pow 2 e.toNat, 1⟩
  let m := 4 * x.mantissa
  let below := if x.mantissa = Nat.pow 2 52 ∧ x.exponent > -1074 then m - 1 else m - 2
  (quarter below, quarter (m + 2), x.mantissa % 2 == 0)

def within (x : Binary64) (d : Decimal) : Bool :=
  let (lo, hi, closed) := interval x
  (lo.lt d.ratio && d.ratio.lt hi) ||
    (closed && (!d.ratio.lt lo && !hi.lt d.ratio))

/-- The decimals next to `num / den` that are whole multiples of `10 ^ e`, the nearer one first. -/
def neighbours (num den : Nat) (e : Int) : List Decimal :=
  let (num, den) :=
    if e < 0 then (num * Nat.pow 10 (-e).toNat, den) else (num, den * Nat.pow 10 e.toNat)
  let q := num / den
  let r := 2 * (num % den)
  let nearUp := den < r || (den == r && q % 2 == 1)
  if nearUp then [⟨q + 1, e⟩, ⟨q, e⟩] else [⟨q, e⟩, ⟨q + 1, e⟩]

/-- The greatest `k` with `10 ^ k` at most the quotient. -/
def magnitude (num den : Nat) : Int :=
  if num < den then
    let rec up (fuel : Nat) (k : Int) (n : Nat) : Int :=
      match fuel with
      | 0 => k
      | fuel + 1 => if n < den then up fuel (k - 1) (n * 10) else k
    up 400 0 num
  else
    let rec down (fuel : Nat) (k : Int) (d : Nat) : Int :=
      match fuel with
      | 0 => k
      | fuel + 1 => if num < d * 10 then k else down fuel (k + 1) (d * 10)
    down 400 0 den

/-- The fewest digits that read back, without zeros at their end. -/
def shortest (x : Binary64) : Decimal :=
  if x.isZero then ⟨0, 0⟩
  else
    let (num, den) := x.ratio
    let top := magnitude num den
    let candidates := (List.range 17).flatMap fun (n : Nat) => neighbours num den (top - n)
    let d := (candidates.find? (within x)).getD ⟨0, 0⟩
    let rec trim (fuel : Nat) (d : Decimal) : Decimal :=
      match fuel with
      | 0 => d
      | fuel + 1 =>
        if d.digits ≠ 0 ∧ d.digits % 10 = 0 then trim fuel ⟨d.digits / 10, d.exponent + 1⟩ else d
    trim 20 d

/-- Positional between `1e-5` and `1e16`, and with an exponent and its sign outside. -/
def text (d : Decimal) : String :=
  let ds := toString d.digits
  let n : Int := ds.length
  let point := n + d.exponent
  let zeros (k : Int) : String := String.ofList (List.replicate k.toNat '0')
  let part (i j : Nat) : String := String.ofList ((ds.toList.drop i).take (j - i))
  if d.digits = 0 then "0.0"
  else if -5 < point ∧ point ≤ 16 then
    if point ≤ 0 then "0." ++ zeros (-point) ++ ds
    else if n ≤ point then ds ++ zeros (point - n) ++ ".0"
    else part 0 point.toNat ++ "." ++ part point.toNat ds.length
  else
    let fraction := if ds.length = 1 then "" else "." ++ part 1 ds.length
    let e := point - 1
    part 0 1 ++ fraction ++ "e" ++ (if e < 0 then "-" else "+") ++ toString e.natAbs

end Decimal

end AdminConsole
