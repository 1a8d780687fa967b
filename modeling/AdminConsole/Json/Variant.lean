import AdminConsole.Json.Decode

/-!
# Decoding variants

A variant is a record with a tag beside its fields. The tag may stand anywhere in an object and
stands first in a list. Because it can come last, what is beside it is read whole before it is
decoded. -/

namespace AdminConsole.Json

structure Variant (α : Type) where
  tag : String
  /-- The variant's name in causes. -/
  kind : String
  record : Record α

namespace Variant

variable {α : Type}

/-- The variant that a tag stands for. -/
def ofTag (variants : List (Variant α)) : Value → Except Cause (Variant α)
  | .string s => do Decoder.ofName (variants.map fun v => (v.tag, v)) (← s)
  | v => .error (v.mismatch "variant identifier")

/-- The variant that an object names under a key, and the other members. -/
def cutTag (key : String) (variants : List (Variant α)) (depth : Nat) :
    Option (Variant α) → Members → Except Cause (Option (Variant α) × Members)
  | found, .member name v rest => do
    if (← name) = key then
      if found.isSome then throw (.duplicateField key)
      cutTag key variants depth (some (← ofTag variants v)) rest
    else
      v.check depth
      let (found, others) ← cutTag key variants depth found rest
      return (found, .member name v others)
  | found, .close => .ok (found, .close)
  | _, members => do
    members.check depth
    throw .valueExpected

def count : Items → Nat
  | .item _ rest => count rest + 1
  | _ => 0

def ofMembers (depth : Nat) (v : Variant α) (members : Members) : Except Cause α := do
  let found ← Record.ofMembers v.record.fields depth members
  v.record.build depth (Record.find? found)

/-- The fields in order, and nothing after them. -/
def ofItems (depth : Nat) (v : Variant α) (items : Items) : Except Cause α := do
  let fields := v.record.fields
  let (found, left) ← Record.ofItems v.kind fields depth items
  if count left > 0 then
    throw (.wrongLength (fields.length + count left)
      (Record.elements fields.length ++ " in sequence"))
  v.record.build depth (Record.find? found)

/-- Reads one of several variants; `kind` names all of them in causes. -/
def decoder (kind key : String) (variants : List (Variant α)) : Decoder α
  | depth, .object members => do
    let depth ← enter depth
    match ← cutTag key variants depth none members with
    | (some v, others) => v.ofMembers depth others
    | (none, _) => throw (.missingField key)
  | depth, .array items => do
    let depth ← enter depth
    match items with
    | .item tag rest =>
      let v ← ofTag variants tag
      rest.check depth
      v.ofItems depth rest
    | .close => throw (.missingField key)
    | .stop e => throw e.readCause
  | _, v => .error (v.mismatch kind)

end Variant

end AdminConsole.Json
