/-!
# Punycode

Labels outside ASCII written in ASCII: the ASCII characters first, then for every other character,
in the order of the code points, how far it is from the one before. Distances are numerals in base
36 whose digits have changing limits, and the limits follow a bias that adapts to the distances
seen. -/

namespace AdminConsole.Punycode

/-- The limit of the digit in a place; a digit below it ends the numeral. -/
def limit (place bias : Nat) : Nat :=
  if place ≤ bias then 1 else if bias + 26 ≤ place then 26 else place - bias

def settle (delta k : Nat) : Nat :=
  if 455 < delta then settle (delta / 35) (k + 36) else k + 36 * delta / (delta + 38)
termination_by delta
decreasing_by omega

/-- The bias after a distance, once `count` characters are placed. -/
def adapt (delta count : Nat) (first : Bool) : Nat :=
  let delta := if first then delta / 700 else delta / 2
  settle (delta + delta / count) 0

/-! ### Writing -/

def digitChar (d : Nat) : Char := Char.ofNat (if d < 26 then 97 + d else 22 + d)

theorem limit_pos (place bias : Nat) : 1 ≤ limit place bias ∧ limit place bias ≤ 26 := by
  unfold limit; split <;> (try split) <;> omega

def digits (q place bias : Nat) : List Char :=
  let t := limit place bias
  if q < t then [digitChar q]
  else digitChar (t + (q - t) % (36 - t)) :: digits ((q - t) / (36 - t)) (place + 36) bias
termination_by q
decreasing_by
  have h := limit_pos place bias
  exact Nat.lt_of_le_of_lt (Nat.div_le_self _ _) (by omega)

structure Progress where
  delta : Nat
  bias : Nat
  /-- How many characters are placed. -/
  count : Nat
  out : List Char

/-- Writes the places of one code point in the label. -/
def place (basic m : Nat) (s : Progress) (c : Nat) : Progress :=
  if c < m then { s with delta := s.delta + 1 }
  else if c = m then
    { delta := 0
      bias := adapt s.delta (s.count + 1) (s.count == basic)
      count := s.count + 1
      out := s.out ++ digits s.delta 36 s.bias }
  else s

/-- Writes the code points from `next` on, of which `todo` lists each once, in order. -/
def placeAll (label : List Nat) (basic : Nat) : (todo : List Nat) → Nat → Progress → List Char
  | [], _, s => s.out
  | m :: todo, next, s =>
    let s := { s with delta := s.delta + (m - next) * (s.count + 1) }
    let s := label.foldl (place basic m) s
    placeAll label basic todo (m + 1) { s with delta := s.delta + 1 }

def encode (label : List Char) : List Char :=
  let codes := label.map Char.toNat
  let basic := label.filter (·.toNat < 128)
  let others := ((codes.filter (128 ≤ ·)).eraseDups).mergeSort
  let front := if basic.isEmpty then [] else basic ++ ['-']
  front ++ placeAll codes basic.length others 128 ⟨0, 72, basic.length, []⟩

/-! ### Reading -/

def digit? (c : Char) : Option Nat :=
  let n := c.toNat
  if 97 ≤ n ∧ n ≤ 122 then some (n - 97)
  else if 65 ≤ n ∧ n ≤ 90 then some (n - 65)
  else if 48 ≤ n ∧ n ≤ 57 then some (n - 22)
  else none

structure Reading where
  /-- The label so far. -/
  out : List Nat
  code : Nat
  /-- Where the last character was placed, plus one. -/
  index : Nat
  bias : Nat
  /-- The distance so far, and the weight and place of its next digit. -/
  delta : Nat
  weight : Nat
  place : Nat

def isScalar (n : Nat) : Bool := n < 0xD800 || (0xE000 ≤ n && n ≤ 0x10FFFF)

def readDigits : Reading → List Char → Option (List Nat)
  | s, [] => if s.place = 36 then some s.out else none
  | s, c :: cs =>
    match digit? c with
    | none => none
    | some d =>
      let delta := s.delta + d * s.weight
      let t := limit s.place s.bias
      if d < t then
        let count := s.out.length + 1
        let code := s.code + (s.index + delta) / count
        let index := (s.index + delta) % count
        if isScalar code then
          readDigits
            { out := s.out.take index ++ code :: s.out.drop index
              code, index := index + 1
              bias := adapt delta count (s.index == 0)
              delta := 0, weight := 1, place := 36 } cs
        else none
      else readDigits { s with delta, weight := s.weight * (36 - t), place := s.place + 36 } cs

/-- The label that an ASCII text stands for. -/
def decode? (cs : List Char) : Option (List Char) :=
  let tail := (cs.reverse.takeWhile (· != '-')).reverse
  let front := cs.take (cs.length - tail.length - 1)
  if cs.all (·.toNat < 128) then
    (readDigits ⟨front.map Char.toNat, 128, 0, 72, 0, 1, 36⟩ tail).map (·.map Char.ofNat)
  else none

end AdminConsole.Punycode
