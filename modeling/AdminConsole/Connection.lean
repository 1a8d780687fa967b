import AdminConsole.Json.Decode
import AdminConsole.Json.Writer

/-!
# Connections

The ways to sign in that the backend knows of. The console loads them once and keeps the list. -/

namespace AdminConsole

structure Connection where
  uuid : String
  label : String
  id : String
  /-- What the subjects that come through the connection start with. -/
  subPrefix : String
  /-- What has to be given for a new user, as a JSON text. -/
  requiredFields : Option String
  deriving DecidableEq

namespace Connection

open Json Json.Record in
def record : Record Connection :=
  Connection.mk <$> requiredField "uuid" .text <*> field "label" "" .text <*> field "id" "" .text
    <*> field "subPrefix" "" .text <*> optionalText "requiredFields"

def decoder : Json.Decoder Connection := record.decoder "struct Connection"

def listDecoder : Json.Decoder (List Connection) := .list decoder

def toData (c : Connection) : Json.Data :=
  .object [("uuid", .string c.uuid), ("label", .string c.label), ("id", .string c.id),
    ("subPrefix", .string c.subPrefix), ("requiredFields", .ofOption c.requiredFields)]

def listData (cs : List Connection) : Json.Data := .array (cs.map toData)

def encodeList (cs : List Connection) : String := Json.compact (listData cs)

def decodeList? (text : String) : Option (List Connection) :=
  (Json.decodeText listDecoder text).toOption

end Connection

end AdminConsole
