import AdminConsole.Files.Disk
import AdminConsole.Json.Decode
import AdminConsole.Json.Writer
import AdminConsole.Storage.Basic

/-!
# A storage in a file

The texts of a storage as one object in a file. The file is never half written: the new object goes
to a file beside it, which then takes its place. A file that is missing, or is no such object, is an
empty storage. -/

namespace AdminConsole.StorageFile

/-- The name without what follows its last point, unless that leaves nothing. -/
def stem (name : String) : String :=
  match name.toList.reverse.dropWhile (· != '.') with
  | '.' :: front => if front.isEmpty then name else String.ofList front.reverse
  | _ => name

/-- The file that a new object is written to. Where `..` comes last, there is no name to make
another from. -/
def draft (p : Place) : Place :=
  match p.name?, p.way.getLast? with
  | some name, _ => .file p.way (stem name ++ ".json.tmp")
  | none, some name => if name = ".." then p else .file p.way.dropLast (stem name ++ ".json.tmp")
  | none, none => p

def entriesData (m : TextMap String) : Json.Data :=
  .object (m.toList.map fun (k, v) => (k, .string v))

def encode (m : TextMap String) : List UInt8 := Utf8.encode (Json.stable (entriesData m))

/-- The texts in a file's bytes. -/
def decode (bytes : List UInt8) : TextMap String :=
  match Json.decode .textMap bytes with
  | .ok m => m
  | .error _ => .empty

def load (p : Place) : Disk (Except StorageError (TextMap String)) := do
  match ← Disk.readFile p with
  | .ok bytes => return .ok (decode bytes)
  | .error .notFound => return .ok .empty
  | .error e => return .error (.io e)

/-- Writes the draft and moves it to its place. -/
def store (p : Place) (m : TextMap String) : Disk (Except OsError Unit) := do
  match ← Disk.makeDirectories p.dropLast with
  | .error e => return .error e
  | .ok _ =>
    match ← Disk.writeFile (draft p) (encode m) with
    | .error e => return .error e
    | .ok _ => Disk.renameFile (draft p) p

def get (p : Place) (key : String) : Disk (Except StorageError (Option String)) := do
  return (← load p).map (·.get? key)

def set (p : Place) (key value : String) : Disk (Except StorageError Unit) := do
  match ← load p with
  | .error e => return .error e
  | .ok m => return (← store p (m.insert key value)).mapError .io

def clear (p : Place) : Disk (Except StorageError Unit) := do
  match ← Disk.removeFile p with
  | .ok _ | .error .notFound => return .ok ()
  | .error e => return .error (.io e)

/-- Answers an operation of the storage. -/
def answer (p : Place) : (op : StorageOp) → Disk op.Answer
  | .read slot => get p slot.key
  | .write slot text => set p slot.key text
  | .wipe => clear p

end AdminConsole.StorageFile
