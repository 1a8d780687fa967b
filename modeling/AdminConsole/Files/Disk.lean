import AdminConsole.Files.Tree
import AdminConsole.Program

/-!
# The disk

Programs that read and write files. `FileTree` answers their operations, and so can a system's own
files. -/

namespace AdminConsole

inductive DiskOp where
  | readFile (p : Place)
  | writeFile (p : Place) (bytes : List UInt8)
  | makeDirectories (p : Place)
  | renameFile (source target : Place)
  | removeFile (p : Place)

abbrev DiskOp.Answer : DiskOp → Type
  | readFile _ => Except OsError (List UInt8)
  | _ => Except OsError Unit

abbrev Disk := Program DiskOp.Answer

namespace Disk

def readFile (p : Place) : Disk (Except OsError (List UInt8)) := .step (.readFile p) .done

def writeFile (p : Place) (bytes : List UInt8) : Disk (Except OsError Unit) :=
  .step (.writeFile p bytes) .done

def makeDirectories (p : Place) : Disk (Except OsError Unit) := .step (.makeDirectories p) .done

def renameFile (source target : Place) : Disk (Except OsError Unit) :=
  .step (.renameFile source target) .done

def removeFile (p : Place) : Disk (Except OsError Unit) := .step (.removeFile p) .done

end Disk

namespace FileTree

/-- The tree after an operation, which is the tree before it if the operation fails. -/
def settle (t : FileTree) : Except OsError FileTree → Except OsError Unit × FileTree
  | .ok t' => (.ok (), t')
  | .error e => (.error e, t)

def answer : (op : DiskOp) → StateM FileTree op.Answer
  | .readFile p => fun t => (t.readFile p, t)
  | .writeFile p bytes => fun t => t.settle (t.writeFile p bytes)
  | .makeDirectories p => fun t => t.makeDirectories p
  | .renameFile source target => fun t => t.settle (t.renameFile source target)
  | .removeFile p => fun t => t.settle (t.removeFile p)

end FileTree

end AdminConsole
