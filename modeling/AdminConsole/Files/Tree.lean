import AdminConsole.Files.Place
import AdminConsole.OsError

/-!
# Trees of files

A tree of files and directories. Everything in it has an address, the names that lead to it one
directory after the other. A place leads through directories (`walk`) to an address, and up as well
as down. What an operation cannot do it leaves undone; only directories that were made on a way stay
made when the way does not go on. -/

namespace AdminConsole

abbrev Address := List String

inductive FileNode where
  | file (bytes : List UInt8)
  | directory
  deriving DecidableEq

structure FileTree where
  nodes : List (Address × FileNode) := []
  deriving DecidableEq, Inhabited

namespace FileTree

/-- What has an address. The tree itself has the empty one. -/
def node? (t : FileTree) (a : Address) : Option FileNode :=
  if a = [] then some .directory else t.nodes.lookup a

def erase (t : FileTree) (a : Address) : FileTree := ⟨t.nodes.filter fun e => e.1 != a⟩

def put (t : FileTree) (a : Address) (n : FileNode) : FileTree := ⟨(a, n) :: (t.erase a).nodes⟩

theorem lookup_erase (t : FileTree) (a b : Address) :
    (t.erase a).nodes.lookup b = if b = a then none else t.nodes.lookup b := by
  obtain ⟨nodes⟩ := t
  simp only [erase]
  induction nodes with
  | nil => simp
  | cons e es ih =>
    obtain ⟨k, n⟩ := e
    by_cases hk : k = a
    · subst hk
      by_cases hb : b = k
      · simpa [hb] using ih
      · simpa [hb, List.lookup_cons, beq_false_of_ne hb] using ih
    · by_cases hb : b = k
      · simp [hb, hk]
      · simpa [hk, List.lookup_cons, beq_false_of_ne hb] using ih

@[simp] theorem node?_erase {t : FileTree} {a b : Address} (h : a ≠ []) :
    (t.erase a).node? b = if b = a then none else t.node? b := by
  unfold node?
  rw [lookup_erase]
  by_cases hb : b = [] <;> by_cases ha : b = a <;> simp_all

@[simp] theorem node?_put {t : FileTree} {a b : Address} {n : FileNode} (h : a ≠ []) :
    (t.put a n).node? b = if b = a then some n else t.node? b := by
  unfold node? put
  by_cases ha : b = a
  · simp [ha, h]
  · simp [ha, List.lookup_cons, beq_false_of_ne ha, lookup_erase]

/-! ### Ways -/

/-- Where a way leads. From the tree itself it goes up to the tree itself. -/
def walk (t : FileTree) : Address → List String → Except OsError Address
  | a, [] => .ok a
  | a, name :: rest =>
    if name = ".." then walk t a.dropLast rest else
      match t.node? (a ++ [name]) with
      | some .directory => walk t (a ++ [name]) rest
      | some (.file _) => .error .notDirectory
      | none => .error .notFound

/-- The address of what a place names, if it names anything. -/
def address? (t : FileTree) (p : Place) : Except OsError (Option Address) := do
  let a ← t.walk [] p.way
  return p.name?.map fun name => a ++ [name]

/-! ### Operations -/

def readFile (t : FileTree) (p : Place) : Except OsError (List UInt8) := do
  let some a ← t.address? p | throw .isDirectory
  match t.node? a with
  | some (.file bytes) => if p.slash then throw .notDirectory else return bytes
  | some .directory => throw .isDirectory
  | none => throw .notFound

def writeFile (t : FileTree) (p : Place) (bytes : List UInt8) : Except OsError FileTree := do
  let some a ← t.address? p | throw .isDirectory
  if p.slash || t.node? a = some .directory then throw .isDirectory
  else return t.put a (.file bytes)

/-- Makes the directories on a way that are not there. A file in the way is in the place of one that
is to be made if it comes last, or if one has been made before it; else it is to be gone through. -/
def makeWay (t : FileTree) (making : Bool) : Address → List String → Except OsError Unit × FileTree
  | _, [] => (.ok (), t)
  | a, name :: rest =>
    if name = ".." then makeWay t making a.dropLast rest else
      match t.node? (a ++ [name]) with
      | some .directory => makeWay t making (a ++ [name]) rest
      | some (.file _) =>
        (.error (if making || rest = [] then .alreadyExists else .notDirectory), t)
      | none => makeWay (t.put (a ++ [name]) .directory) true (a ++ [name]) rest

/-- Makes a directory, and those that lead to it, unless they are there. -/
def makeDirectories (t : FileTree) (p : Place) : Except OsError Unit × FileTree :=
  t.makeWay false [] p.names

def removeFile (t : FileTree) (p : Place) : Except OsError FileTree := do
  let some a ← t.address? p | throw .isDirectory
  match t.node? a with
  | some (.file _) => if p.slash then throw .notDirectory else return t.erase a
  | some .directory => throw .isDirectory
  | none => throw .notFound

/-- Moves a file to another place, where it takes the place of a file. -/
def renameFile (t : FileTree) (source target : Place) : Except OsError FileTree := do
  let some a ← t.address? source | throw .busy
  let some b ← t.address? target | throw .busy
  let bytes ← t.readFile source
  if target.slash then throw .notDirectory
  else if t.node? b = some .directory then throw .isDirectory
  else return (t.erase a).put b (.file bytes)

end FileTree

end AdminConsole
