import AdminConsole.Url.ComposeTable
import AdminConsole.Text.Percent
import AdminConsole.Text.Form

/-!
# Canonical composition

One way to write each text: characters are taken apart, marks are put in the order of their
classes, and what can be put together is put together. -/

namespace AdminConsole

namespace DomainTable

def hexNumber (cs : List Char) : Nat :=
  cs.foldl (fun n c => 16 * n + ((Percent.digit? (UInt8.ofNat c.toNat)).getD 0)) 0

/-- The rows of a table as lists of numbers. -/
def rows (table : String) : List (List Nat) :=
  (Form.pieces ';' table.toList).map fun row => (Form.pieces ' ' row).map hexNumber

/-- Whether a number is in one of the runs. -/
def inRuns (runs : List (List Nat)) (n : Nat) : Bool :=
  runs.any fun
    | lo :: hi :: _ => lo ≤ n && n ≤ hi
    | _ => false

def composed : List (List Nat) := rows composeRows

def classes : List (List Nat) := rows classRows

end DomainTable

namespace Compose

open DomainTable

def classOf (n : Nat) : Nat :=
  if n < 0x300 then 0
  else
    (classes.findSome? fun
      | [lo, hi, k] => if lo ≤ n ∧ n ≤ hi then some k else none
      | _ => none).getD 0

/-! ### Syllables of Hangul -/

def isSyllable (n : Nat) : Bool := 0xAC00 ≤ n && n ≤ 0xD7A3

def splitSyllable (n : Nat) : List Nat :=
  let s := n - 0xAC00
  let tail := s % 28
  [0x1100 + s / 588, 0x1161 + s % 588 / 28] ++ if tail = 0 then [] else [0x11A7 + tail]

def joinSyllable? (a b : Nat) : Option Nat :=
  if 0x1100 ≤ a ∧ a ≤ 0x1112 ∧ 0x1161 ≤ b ∧ b ≤ 0x1175 then
    some (0xAC00 + (a - 0x1100) * 588 + (b - 0x1161) * 28)
  else if isSyllable a ∧ (a - 0xAC00) % 28 = 0 ∧ 0x11A8 ≤ b ∧ b ≤ 0x11C2 then some (a + b - 0x11A7)
  else none

/-! ### Taking apart and putting together -/

/-- No character is taken apart more than four times. -/
def split : Nat → Nat → List Nat
  | 0, n => [n]
  | fuel + 1, n =>
    if isSyllable n then splitSyllable n
    else if n < 0xC0 then [n]
    else
      match composed.findSome? (fun
        | [c, a, b] => if c = n then some (a, b) else none
        | _ => none) with
      | some (a, b) => split fuel a ++ [b]
      | none => [n]

/-- Nothing below the first mark is ever joined to what is before it. -/
def join? (a b : Nat) : Option Nat :=
  if b < 0x300 then none
  else
    (joinSyllable? a b).or (composed.findSome? fun
      | [c, a', b'] => if a' = a ∧ b' = b then some c else none
      | _ => none)

/-- Puts a mark before the marks of higher classes that end the text, given in reverse. -/
def insertMark (n : Nat) : List Nat → List Nat
  | [] => [n]
  | m :: ms =>
    if classOf n ≠ 0 ∧ classOf n < classOf m then m :: insertMark n ms else n :: m :: ms

def inOrder (ns : List Nat) : List Nat := (ns.foldl (fun acc n => insertMark n acc) []).reverse

/-- A text that is being put together: the part that is done, the character that marks may still
join, and the marks that have not joined it. -/
structure Joining where
  done : List Nat
  base : Option Nat
  marks : List Nat

def Joining.add (s : Joining) (n : Nat) : Joining :=
  match s.base with
  | none => if classOf n = 0 then { s with base := some n } else { s with done := s.done ++ [n] }
  | some base =>
    let lastClass := (s.marks.getLast?.map classOf).getD 0
    let blocked := !s.marks.isEmpty && (lastClass == 0 || lastClass ≥ classOf n)
    match if blocked then none else join? base n with
    | some c => { s with base := some c }
    | none =>
      if classOf n = 0 then ⟨s.done ++ base :: s.marks, some n, []⟩
      else { s with marks := s.marks ++ [n] }

def joined (ns : List Nat) : List Nat :=
  let s := ns.foldl Joining.add ⟨[], none, []⟩
  s.done ++ (s.base.toList ++ s.marks)

/-- The composed form of a text. -/
def normal (ns : List Nat) : List Nat := joined (inOrder (ns.flatMap (split 4)))

end Compose

end AdminConsole
