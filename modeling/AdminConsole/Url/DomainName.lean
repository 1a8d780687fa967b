import AdminConsole.Url.Direction
import AdminConsole.Url.FoldTable
import AdminConsole.Url.JoiningTable
import AdminConsole.Url.Punycode
import AdminConsole.Url.ValidTable

/-!
# Domain names

The ASCII form of a domain name: its characters are folded and composed, and every label that is
still outside ASCII is written in Punycode. A label that is given in Punycode must be the form of
the label it stands for. All the tables hold the characters of Unicode 14.0, and no later character
may stand in a name. -/

namespace AdminConsole.DomainName

open DomainTable

/-- ASCII characters that no domain name may hold. -/
def isForbidden (c : Char) : Bool :=
  c.toNat ≤ 0x20 || c.toNat == 0x7F || "%#/:<>?@[\\]^|".toList.contains c

def shifts : List (List Nat) := rows shiftRows

def expansions : List (List Nat) := rows expandRows

def drops : List (List Nat) := rows dropRows

def shifted? (n : Nat) : Option Nat :=
  shifts.findSome? fun
    | [lo, count, step, target] =>
      if lo ≤ n ∧ n < lo + count * step ∧ (n - lo) % step = 0 then some (target + (n - lo))
      else none
    | _ => none

def expanded? (n : Nat) : Option (List Nat) :=
  expansions.findSome? fun
    | c :: targets => if c = n then some targets else none
    | [] => none

def foldCode (n : Nat) : List Nat :=
  if n < 128 then [(Char.ofNat n).toLower.toNat]
  else if inRuns drops n then []
  else match shifted? n with
    | some m => [m]
    | none => (expanded? n).getD [n]

def fold (cs : List Char) : List Char :=
  (Compose.normal (cs.flatMap fun c => foldCode c.toNat)).map Char.ofNat

def denied : List (List Nat) := rows deniedRows

def marks : List (List Nat) := rows markRows

/-! ### Joiners -/

def bothSides : List (List Nat) := rows bothSidesRows

def before : List (List Nat) := rows beforeRows

def after : List (List Nat) := rows afterRows

def between : List (List Nat) := rows betweenRows

def joinsBefore (n : Nat) : Bool := inRuns bothSides n || inRuns before n

def joinsAfter (n : Nat) : Bool := inRuns bothSides n || inRuns after n

/-- Whether the first character that letters do not join across is of a kind. -/
def firstLetter (kind : Nat → Bool) (codes : List Nat) : Bool :=
  (codes.dropWhile (inRuns between)).head?.any kind

/-- A joiner has to follow a mark that kills a vowel. The one that keeps letters apart may also
stand between two letters that would join. The characters that are passed are held with the last one
first. -/
def joinersPlaced : List Nat → List Nat → Bool
  | _, [] => true
  | passed, n :: rest =>
    ((n != 0x200C && n != 0x200D) || passed.head?.any (Compose.classOf · == 9) ||
        (n == 0x200C && firstLetter joinsAfter passed && firstLetter joinsBefore rest)) &&
      joinersPlaced (n :: passed) rest

/-! ### Labels -/

def isAscii (cs : List Char) : Bool := cs.all (·.toNat < 128)

/-- Whether a folded label may stand in a domain name, forbidden ASCII characters apart. -/
def isValidLabel (cs : List Char) : Bool :=
  let codes := cs.map Char.toNat
  !(codes.any fun n => n == 0xFFFD || (n ≥ 128 && inRuns denied n)) &&
    !(codes.head?.any (inRuns marks)) && joinersPlaced [] codes

/-- The label that a folded one stands for, if it may stand in a domain name. -/
def readLabel? (cs : List Char) : Option (List Char) :=
  match cs with
  | 'x' :: 'n' :: '-' :: '-' :: code =>
    (Punycode.decode? code).filter fun label =>
      !isAscii label && fold label == label && isValidLabel label && !label.any isForbidden
  | _ => if !cs.any isForbidden && (isAscii cs || isValidLabel cs) then some cs else none

def writeLabel (label : List Char) : List Char :=
  if isAscii label then label else "xn--".toList ++ Punycode.encode label

/-- The ASCII form of a domain name, if it has one. -/
def toAscii? (cs : List Char) : Option (List Char) := do
  let labels ← (Form.pieces '.' (fold cs)).mapM readLabel?
  guard (Direction.consistent labels)
  return ['.'].intercalate (labels.map writeLabel)

end AdminConsole.DomainName
