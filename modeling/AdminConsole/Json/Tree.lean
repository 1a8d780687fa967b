import AdminConsole.Json.Cause

/-!
# Documents as trees

A document is read once, into a tree that any text has: where the text stops being JSON, the tree
ends with a mark that says why (`Gap`, `ListEnd`, `ObjectEnd`). A decoder walks the tree in the
order of the text, so of two things wrong with a document the one that comes first is reported,
whether it is the text or the value. A value that is only passed over is held to less than one that
is read, which is why some marks have two causes. -/

namespace AdminConsole.Json

/-- Why no value stands where one is due. -/
inductive Gap where
  | atEnd
  /-- A character that starts no value. -/
  | stray
  | word (cause : Cause)
  | number (read skip : Cause)
  | text (read skip : Cause)
  /-- The key before it is not followed by a colon. -/
  | colon (cause : Cause)
  deriving DecidableEq

namespace Gap

def readCause : Gap → Cause
  | atEnd => .endInValue
  | stray => .valueExpected
  | word c => c
  | number c _ => c
  | text c _ => c
  | colon c => c

def skipCause : Gap → Cause
  | number _ c => c
  | text _ c => c
  | g => g.readCause

end Gap

/-- How the items of a list break off. -/
inductive ListEnd where
  | atEnd
  | atEndAfterComma
  | comma
  | noComma
  deriving DecidableEq

namespace ListEnd

def readCause : ListEnd → Cause
  | atEnd => .endInList
  | atEndAfterComma => .endInValue
  | comma => .commaAtEnd
  | noComma => .listGoesOn

def skipCause : ListEnd → Cause
  | comma => .valueExpected
  | e => e.readCause

/-- The cause where the list should be over. -/
def overCause : ListEnd → Cause
  | atEnd => .endInList
  | comma => .commaAtEnd
  | _ => .textAfterEnd

end ListEnd

mutual

inductive Value where
  | null
  | bool (b : Bool)
  | number (n : Numeral)
  /-- A string in its quotes, and its text unless that cannot be read. -/
  | string (text : Except Cause String)
  | array (items : Items)
  | object (members : Members)
  | gap (g : Gap)

inductive Items where
  | close
  | stop (e : ListEnd)
  | item (v : Value) (rest : Items)

inductive Members where
  | close
  | atEnd
  | atEndAfterComma
  | comma
  | noComma
  /-- A key that does not end. -/
  | badKey (read skip : Cause)
  /-- Something else where a key is due. -/
  | noKey (found : Value)
  | member (key : Except Cause String) (v : Value) (rest : Members)

end

/-- A value, and whether anything but white space follows it. -/
structure Document where
  root : Value
  more : Bool

/-! ### Passing over a value -/

mutual

/-- A value that is passed over only has to be JSON: no bound on numbers or depth, and no regard to
what the code points of its strings are. -/
def Value.skip : Value → Except Cause Unit
  | .array items => items.skip
  | .object members => members.skip
  | .gap g => .error g.skipCause
  | _ => .ok ()

def Items.skip : Items → Except Cause Unit
  | .close => .ok ()
  | .stop e => .error e.skipCause
  | .item v rest => do v.skip; rest.skip

def Members.skip : Members → Except Cause Unit
  | .close => .ok ()
  | .atEnd => .error .endInObject
  | .atEndAfterComma => .error .endInObject
  | .comma => .error .keyExpected
  | .noComma => .error .objectGoesOn
  | .badKey _ c => .error c
  | .noKey _ => .error .keyExpected
  | .member _ v rest => do v.skip; rest.skip

end

/-! ### Reading a value whole -/

/-- How deep lists and objects may be inside each other in a value that is read. -/
def maxDepth : Nat := 128

/-- The depth left inside a list or an object. -/
def enter : Nat → Except Cause Nat
  | n + 2 => .ok (n + 1)
  | _ => .error .tooDeep

def Numeral.read (n : Numeral) : Except Cause Number :=
  match n.value? with
  | some x => .ok x
  | none => .error .numberTooLarge

mutual

/-- Whether every part of a value can be read. -/
def Value.check (depth : Nat) : Value → Except Cause Unit
  | .number n => do discard n.read
  | .string s => do discard s
  | .array items => do items.check (← enter depth)
  | .object members => do members.check (← enter depth)
  | .gap g => .error g.readCause
  | _ => .ok ()

def Items.check (depth : Nat) : Items → Except Cause Unit
  | .close => .ok ()
  | .stop e => .error e.readCause
  | .item v rest => do v.check depth; rest.check depth

def Members.check (depth : Nat) : Members → Except Cause Unit
  | .close => .ok ()
  | .atEnd => .error .endInObject
  | .atEndAfterComma => .error .endInValue
  | .comma => .error .commaAtEnd
  | .noComma => .error .objectGoesOn
  | .badKey c _ => .error c
  | .noKey _ => .error .keyExpected
  | .member key v rest => do
    discard key
    v.check depth
    rest.check depth

end

end AdminConsole.Json
