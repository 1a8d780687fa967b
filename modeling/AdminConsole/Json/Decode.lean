import AdminConsole.Json.Reader
import AdminConsole.Sorted.TextMap
import AdminConsole.Sorted.TextSet
import AdminConsole.Text.Blank

/-!
# Decoding values

A decoder takes the depth that is left and a value. Simple decoders come first; records follow. A
record is a list of fields and a way to build a value from what stands under their names; `Record`
is applicative, so a decoder reads like the constructor it fills. A record is written as an object,
or as a list of its fields in order. -/

namespace AdminConsole.Json

abbrev Decoder (α : Type) := Nat → Value → Except Cause α

/-- The cause where a value of another kind is wanted. -/
def Value.mismatch (wanted : String) : Value → Cause
  | .null => .wrongType .null wanted
  | .bool b => .wrongType (.bool b) wanted
  | .number n =>
    match n.read with
    | .ok x => .wrongType (.number x) wanted
    | .error c => c
  | .string (.ok s) => .wrongType (.string s) wanted
  | .string (.error c) => c
  | .array _ => .wrongType .sequence wanted
  | .object _ => .wrongType .map wanted
  | .gap g => g.readCause

namespace Decoder

def text : Decoder String
  | _, .string s => s
  | _, v => .error (v.mismatch "a string")

def unit : Decoder Unit
  | _, .null => .ok ()
  | _, v => .error (v.mismatch "unit")

/-- A whole number of at most 64 bits. -/
def natural : Decoder Nat
  | _, .number n => do
    match ← n.read with
    | .natural n => return n
    | .negative n => throw (.wrongValue (.number (.negative n)) "u64")
    | .double minus x => throw (.wrongType (.number (.double minus x)) "u64")
  | _, v => .error (v.mismatch "u64")

variable {α : Type}

def optional (d : Decoder α) : Decoder (Option α)
  | _, .null => .ok none
  | depth, v => (d depth v).map some

def items (d : Decoder α) (depth : Nat) : Items → Except Cause (List α)
  | .close => .ok []
  | .stop e => .error e.readCause
  | .item v rest => do
    let x ← d depth v
    return x :: (← items d depth rest)

def list (d : Decoder α) : Decoder (List α)
  | depth, .array xs => do items d (← enter depth) xs
  | _, v => .error (v.mismatch "a sequence")

/-- Strings in any order and number; null is no string at all. -/
def textSet : Decoder TextSet := fun depth v => do
  return .ofList ((← optional (list text) depth v).getD [])

def entries (depth : Nat) : Members → Except Cause (List (String × String))
  | .member key v rest => do
    let key ← key
    let value ← text depth v
    return (key, value) :: (← entries depth rest)
  | .close => .ok []
  | members => (members.check depth).map fun _ => []

/-- An object of strings; the last of several members with one name counts. -/
def textMap : Decoder (TextMap String)
  | depth, .object members => do return .ofList (← entries (← enter depth) members)
  | _, v => .error (v.mismatch "a map")

def isTrueText (s : String) : Bool := Text.toAsciiLower (Text.trim s) == "true"

/-- A truth value, or a text that says true or anything else; null is false. -/
def flag : Decoder Bool
  | _, .null => .ok false
  | depth, v => do
    v.check depth
    match v with
    | .bool b => return b
    | .string s => return isTrueText (← s)
    | _ => throw (.noAlternative "BoolLike")

/-! ### Names -/

def ofName (known : List (String × α)) (name : String) : Except Cause α :=
  match known.lookup name with
  | some x => .ok x
  | none => .error (.unknownVariant name (known.map (·.1)))

/-- One of several names, alone or as the only member of an object with null under it. -/
def name (known : List (String × α)) : Decoder α
  | _, .string s => do ofName known (← s)
  | depth, .object members => do
    let depth ← enter depth
    let wanted := "variant identifier"
    match members with
    | .member key v rest =>
      let x ← ofName known (← key)
      unit depth v
      match rest with
      | .close => return x
      | .atEnd => throw .endInObject
      | _ => throw .valueExpected
    | .close => throw .valueExpected
    | .atEnd => throw .endInValue
    | .badKey c _ => throw c
    | .noKey found => throw (found.mismatch wanted)
    | _ => throw .valueExpected
  | _, .gap .atEnd => .error .endInValue
  | _, .gap (.text c _) => .error c
  | _, .gap (.colon c) => .error c
  | _, _ => .error .valueExpected

end Decoder

/-! ### Records -/

/-- A field as far as reading the text goes. -/
structure FieldCheck where
  name : String
  required : Bool
  check : Nat → Value → Except Cause Unit

structure Record (α : Type) where
  fields : List FieldCheck
  /-- The record from what stands under its fields' names, at a depth. -/
  build : Nat → (String → Option Value) → Except Cause α

namespace Record

variable {α β : Type}

instance : Applicative Record where
  pure x := ⟨[], fun _ _ => .ok x⟩
  seq f x := ⟨f.fields ++ (x ()).fields, fun depth get => do
    let g ← f.build depth get
    return g (← (x ()).build depth get)⟩

/-- A field that has a value even where it is left out. -/
def field (name : String) (default : α) (d : Decoder α) : Record α where
  fields := [⟨name, false, fun depth v => do discard (d depth v)⟩]
  build depth get :=
    match get name with
    | some v => d depth v
    | none => .ok default

/-- A field that may not be left out. -/
def requiredField (name : String) (d : Decoder α) : Record α where
  fields := [⟨name, true, fun depth v => do discard (d depth v)⟩]
  build depth get :=
    match get name with
    | some v => d depth v
    | none => .error (.missingField name)

/-- A field that is text or null, and null where it is left out. -/
def optionalText (name : String) : Record (Option String) := field name none (.optional .text)

/-- The value of the first member with the name. -/
def find? (found : List (String × Value)) (name : String) : Option Value := found.lookup name

/-- Goes through the members in order and keeps those that are fields. -/
def gather (fields : List FieldCheck) (depth : Nat) :
    List (String × Value) → Members → Except Cause (List (String × Value))
  | found, .member key v rest => do
    let key ← key
    match fields.find? (·.name == key) with
    | some f =>
      if (find? found key).isSome then throw (.duplicateField key)
      f.check depth v
      gather fields depth (found ++ [(key, v)]) rest
    | none =>
      v.skip
      gather fields depth found rest
  | found, .close => .ok found
  | _, .atEnd => .error .endInObject
  | _, .atEndAfterComma => .error .endInValue
  | _, .comma => .error .commaAtEnd
  | _, .noComma => .error .objectGoesOn
  | _, .badKey c _ => .error c
  | _, .noKey _ => .error .keyExpected

/-- Names the items by the fields they stand for, and answers the items that are left over. -/
def align (depth : Nat) : List FieldCheck → Items → Except Cause (List (String × Value) × Items)
  | [], items => .ok ([], items)
  | _ :: _, .close => .ok ([], .close)
  | _ :: _, .stop e => .error e.readCause
  | f :: fs, .item v rest => do
    f.check depth v
    let (found, left) ← align depth fs rest
    return ((f.name, v) :: found, left)

/-- The first field that is required and missing, by its place. -/
def firstMissing? (fields : List FieldCheck) (found : List (String × Value)) :
    Option (Nat × FieldCheck) :=
  (fields.zipIdx.find? fun (f, _) => f.required && (find? found f.name).isNone).map
    fun (f, i) => (i, f)

/-- What stands under the names of the fields. -/
def ofMembers (fields : List FieldCheck) (depth : Nat) (members : Members) :
    Except Cause (List (String × Value)) := do
  let found ← gather fields depth [] members
  match firstMissing? fields found with
  | some (_, f) => throw (.missingField f.name)
  | none => return found

/-- The length of the list in words. -/
def elements (n : Nat) : String := toString n ++ (if n = 1 then " element" else " elements")

def ofItems (kind : String) (fields : List FieldCheck) (depth : Nat) (items : Items) :
    Except Cause (List (String × Value) × Items) := do
  let (found, left) ← align depth fields items
  match firstMissing? fields found with
  | some (i, _) => throw (.wrongLength i (kind ++ " with " ++ elements fields.length))
  | none => return (found, left)

/-- A list of fields may not go on after the last of them. -/
def finish : Items → Except Cause Unit
  | .close => .ok ()
  | .stop e => .error e.overCause
  | .item _ _ => .error .textAfterEnd

/-- Reads a record; `kind` names it in causes. -/
def decoder (kind : String) (r : Record α) : Decoder α
  | depth, .object members => do
    let depth ← enter depth
    let found ← ofMembers r.fields depth members
    r.build depth (find? found)
  | depth, .array items => do
    let depth ← enter depth
    let (found, left) ← ofItems kind r.fields depth items
    finish left
    r.build depth (find? found)
  | _, v => .error (v.mismatch kind)

end Record

/-! ### Whole documents -/

def decode {α : Type} (d : Decoder α) (bs : Bytes) : Except Cause α := do
  let document := read bs
  let x ← d maxDepth document.root
  if document.more then throw .textAfterEnd
  return x

def decodeText {α : Type} (d : Decoder α) (s : String) : Except Cause α := decode d (Utf8.encode s)

end AdminConsole.Json
