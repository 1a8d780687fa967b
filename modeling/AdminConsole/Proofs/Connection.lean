import AdminConsole.Connection
import AdminConsole.Proofs.Json.Record

/-!
# Connections are read as they were kept

A list of connections is read back item by item, and each item field by field. -/

namespace AdminConsole.Connection

open Json Record

theorem decoder_toData (c : Connection) : decoder 127 c.toData.tree = .ok c := by
  have text := Decoder.text_string 126
  have fills : Fills record 126 _ c :=
    (((((Fills.nil 126 Connection.mk).requiredField "uuid" (text c.uuid)).field
      "label" "" (text c.label)).field "id" "" (text c.id)).field
      "subPrefix" "" (text c.subPrefix)).field
      "requiredFields" none (Decoder.optional_text_ofOption 126 c.requiredFields)
  exact fills.decoder_object (by decide)

theorem listDecoder_listData (cs : List Connection) :
    listDecoder maxDepth (listData cs).tree = .ok cs := by
  change Decoder.items decoder 127 (Data.itemsTree (cs.map toData)) = _
  exact Decoder.items_map decoder_toData cs

theorem isAllBlank_encodeList (cs : List Connection) :
    Text.isAllBlank (encodeList cs) = false := by
  have bracket : Text.isBlank '[' = false := by decide
  cases cs with
  | nil => decide
  | cons c cs =>
    rw [encodeList, listData, List.map_cons, compact, compactChars,
      Text.isAllBlank, String.toList_ofList, List.cons_append, List.all_cons, bracket,
      Bool.false_and]

/-- **The kept text of a list of connections is read as the list.** -/
theorem decodeList?_encodeList (cs : List Connection) : decodeList? (encodeList cs) = some cs := by
  rw [decodeList?, encodeList, decodeText_compact, listDecoder_listData]
  rfl

end AdminConsole.Connection
