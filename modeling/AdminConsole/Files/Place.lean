/-!
# Places of files

A place says where a file is the way a path does: it goes through directories, by their names or by
`..` to the one above, and names something in the last of them. A path that ends in `.` or `..`
names nothing there, and is the directory itself. -/

namespace AdminConsole

structure Place where
  way : List String
  name? : Option String
  /-- A slash comes after the name, so that it asks for a directory. -/
  slash : Bool := false
  deriving DecidableEq, Inhabited

namespace Place

def file (way : List String) (name : String) : Place := { way, name? := some name }

def names (p : Place) : List String := p.way ++ p.name?.toList

/-- The directory that a place is in, going by its names. -/
def dropLast (p : Place) : Place := { way := p.names.dropLast, name? := none }

def ofPath (path : String) : Place :=
  let pieces := path.splitOn "/"
  let names := pieces.filter fun piece => piece ≠ "" ∧ piece ≠ "."
  match (pieces.filter (· ≠ "")).getLast? with
  | none | some "." | some ".." => { way := names, name? := none }
  | some name => { way := names.dropLast, name? := some name, slash := pieces.getLast? = some "" }

end Place

end AdminConsole
