import AdminConsole.Url.Compose
import AdminConsole.Url.DirectionTable

/-!
# Directions of labels

Some scripts are written from right to left. Where a domain name holds letters or digits of such a
script, every label of it has to have a direction that its first character gives and that no other
character contradicts, so that the name is shown with its labels in order. -/

namespace AdminConsole

inductive Direction where
  | rightward
  | leftward
  | digit
  | arabicDigit
  | attached
  | neutral
  deriving DecidableEq

namespace Direction

open DomainTable

def leftwardRuns : List (List Nat) := rows leftwardRows

def arabicDigitRuns : List (List Nat) := rows arabicDigitRows

def digitRuns : List (List Nat) := rows digitRows

def attachedRuns : List (List Nat) := rows attachedRows

def neutralRuns : List (List Nat) := rows neutralRows

def ofChar (c : Char) : Direction :=
  let n := c.toNat
  if inRuns leftwardRuns n then leftward
  else if inRuns arabicDigitRuns n then arabicDigit
  else if inRuns digitRuns n then digit
  else if inRuns attachedRuns n then attached
  else if inRuns neutralRuns n then neutral
  else rightward

/-- Whether a character makes the direction of its domain name matter. -/
def isLeftward (d : Direction) : Bool := d == leftward || d == arabicDigit

/-- Whether a label's directions agree. A label ends in a letter or a digit, marks on it apart, and
a label written from right to left has digits of one kind. -/
def agree (label : List Direction) : Bool :=
  let last := (label.reverse.dropWhile (· == attached)).head?
  match label with
  | [] => true
  | rightward :: _ =>
    label.all (!isLeftward ·) && last.any fun d => d == rightward || d == digit
  | leftward :: _ =>
    label.all (· != rightward) && last.any (fun d => isLeftward d || d == digit) &&
      !(label.contains digit && label.contains arabicDigit)
  | _ => false

/-- Whether the labels of a domain name can stand together. -/
def consistent (labels : List (List Char)) : Bool :=
  let directions := labels.map fun label => label.map ofChar
  !(directions.any fun label => label.any isLeftward) || directions.all agree

end Direction

end AdminConsole
