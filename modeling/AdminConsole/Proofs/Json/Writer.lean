import AdminConsole.Json.Decode
import AdminConsole.Proofs.Json.Reader

/-!
# What is written is read back

Data is written in either layout as bytes that spell its tree (`writes_compact`, `writes_stable`). A
decoder that is given a document of a value is given the value (`decodeText_of_writes`), so what it
reads in the tree of data it reads in either layout of it (`ReadsBack`). -/

namespace AdminConsole.Json

mutual

/-- The tree that data is read as. -/
def Data.tree : Data → Value
  | .null => .null
  | .bool b => .bool b
  | .natural n => .number (.natural n)
  | .string s => .string (.ok s)
  | .array xs => .array (Data.itemsTree xs)
  | .object ms => .object (Data.membersTree ms)

def Data.itemsTree : List Data → Items
  | [] => .close
  | x :: xs => .item x.tree (Data.itemsTree xs)

def Data.membersTree : List (String × Data) → Members
  | [] => .close
  | (key, x) :: ms => .member (.ok key) x.tree (Data.membersTree ms)

end

theorem bytesOf_append (cs ds : List Char) : bytesOf (cs ++ ds) = bytesOf cs ++ bytesOf ds :=
  List.flatMap_append

theorem bytesOf_cons (c : Char) (cs : List Char) :
    bytesOf (c :: cs) = String.utf8EncodeChar c ++ bytesOf cs :=
  List.flatMap_cons

theorem isBlank_nil : IsBlank [] := by
  intro b hb
  simp at hb

theorem spells_natural (n : Nat) : Spells (Data.natural n).tree (bytesOf (scalar (.natural n))) := by
  rw [scalar, Nat.toString_eq_ofList_toDigits, String.toList_ofList]
  exact .number (spellsNumeral_natural n)

/-! ### On one line -/

mutual

theorem spells_compactChars (d : Data) : Spells d.tree (bytesOf (compactChars d)) := by
  match d with
  | .null => exact .null
  | .bool true => exact .yes
  | .bool false => exact .no
  | .natural n => exact spells_natural n
  | .string s => exact .string (spellsString_quote s)
  | .array [] => exact .array (.close true isBlank_nil)
  | .object [] => exact .object (.close true isBlank_nil)
  | .array (x :: xs) =>
    have first := SpellsItems.item true isBlank_nil (spells_compactChars x) isBlank_nil
      (spells_compactItems xs)
    rw [compactChars, bytesOf_append, bytesOf_cons, List.append_assoc]
    exact .array first
  | .object ((key, x) :: ms) =>
    have first := SpellsMembers.member true isBlank_nil (spellsString_quote key) isBlank_nil
      isBlank_nil (spells_compactChars x) isBlank_nil (spells_compactMembers ms)
    rw [compactChars, bytesOf_append, bytesOf_append, bytesOf_cons, bytesOf_cons]
    simp only [List.append_assoc]
    exact .object first

theorem spells_compactItems (xs : List Data) :
    SpellsItems false (Data.itemsTree xs) (bytesOf (compactItems xs)) := by
  match xs with
  | [] => exact .close false isBlank_nil
  | x :: xs =>
    have next := SpellsItems.item false isBlank_nil (spells_compactChars x) isBlank_nil
      (spells_compactItems xs)
    rw [compactItems, bytesOf_append, bytesOf_cons, List.append_assoc]
    exact next

theorem spells_compactMembers (ms : List (String × Data)) :
    SpellsMembers false (Data.membersTree ms) (bytesOf (compactMembers ms)) := by
  match ms with
  | [] => exact .close false isBlank_nil
  | (key, x) :: ms =>
    have next := SpellsMembers.member false isBlank_nil (spellsString_quote key) isBlank_nil
      isBlank_nil (spells_compactChars x) isBlank_nil (spells_compactMembers ms)
    rw [compactMembers, bytesOf_append, bytesOf_append, bytesOf_cons, bytesOf_cons]
    simp only [List.append_assoc]
    exact next

end

/-! ### On many lines -/

theorem isBlank_newline (level : Nat) : IsBlank (bytesOf (newline level)) := by
  intro b hb
  rw [newline, bytesOf_cons] at hb
  rcases List.mem_append.mp hb with hb | hb
  · obtain rfl := List.mem_singleton.mp hb
    rfl
  · obtain ⟨c, hc, hb⟩ := List.mem_flatMap.mp hb
    obtain rfl := List.eq_of_mem_replicate hc
    obtain rfl := List.mem_singleton.mp hb
    rfl

theorem isBlank_space : IsBlank (bytesOf [' ']) := by
  intro b hb
  obtain rfl := List.mem_singleton.mp hb
  rfl

mutual

theorem spells_stableChars (level : Nat) (d : Data) :
    Spells d.tree (bytesOf (stableChars level d)) := by
  match d with
  | .null => exact .null
  | .bool true => exact .yes
  | .bool false => exact .no
  | .natural n => exact spells_natural n
  | .string s => exact .string (spellsString_quote s)
  | .array [] => exact .array (.close true isBlank_nil)
  | .object [] => exact .object (.close true isBlank_nil)
  | .array (x :: xs) =>
    have first := SpellsItems.item true (isBlank_newline (level + 1))
      (spells_stableChars (level + 1) x) isBlank_nil (spells_stableItems level xs)
    rw [stableChars, bytesOf_append, bytesOf_append, bytesOf_cons]
    simp only [List.append_assoc]
    exact .array first
  | .object ((key, x) :: ms) =>
    have first := SpellsMembers.member true (isBlank_newline (level + 1)) (spellsString_quote key)
      isBlank_nil isBlank_space (spells_stableChars (level + 1) x) isBlank_nil
      (spells_stableMembers level ms)
    rw [stableChars]
    simp only [bytesOf_append, bytesOf_cons, List.append_assoc] at first ⊢
    exact .object first

theorem spells_stableItems (level : Nat) (xs : List Data) :
    SpellsItems false (Data.itemsTree xs) (bytesOf (stableItems level xs)) := by
  match xs with
  | [] =>
    rw [stableItems, bytesOf_append]
    exact .close false (isBlank_newline level)
  | x :: xs =>
    have next := SpellsItems.item false (isBlank_newline (level + 1))
      (spells_stableChars (level + 1) x) isBlank_nil (spells_stableItems level xs)
    rw [stableItems, bytesOf_append, bytesOf_append, bytesOf_cons]
    simp only [List.append_assoc]
    exact next

theorem spells_stableMembers (level : Nat) (ms : List (String × Data)) :
    SpellsMembers false (Data.membersTree ms) (bytesOf (stableMembers level ms)) := by
  match ms with
  | [] =>
    rw [stableMembers, bytesOf_append]
    exact .close false (isBlank_newline level)
  | (key, x) :: ms =>
    have next := SpellsMembers.member false (isBlank_newline (level + 1)) (spellsString_quote key)
      isBlank_nil isBlank_space (spells_stableChars (level + 1) x) isBlank_nil
      (spells_stableMembers level ms)
    rw [stableMembers]
    simp only [bytesOf_append, bytesOf_cons, List.append_assoc] at next ⊢
    exact next

end

/-! ### Whole documents -/

/-- The text is a document of the value. -/
def Writes (v : Value) (text : String) : Prop :=
  ∃ ws t ws', Utf8.encode text = ws ++ (t ++ ws') ∧ IsBlank ws ∧ Spells v t ∧ IsBlank ws'

theorem writes_compact (d : Data) : Writes d.tree (compact d) := by
  refine ⟨[], _, [], ?_, isBlank_nil, spells_compactChars d, isBlank_nil⟩
  rw [compact, encode_ofList, List.nil_append, List.append_nil]

theorem writes_stable (d : Data) : Writes d.tree (stable d) := by
  refine ⟨[], _, _, ?_, isBlank_nil, spells_stableChars 0 d, isBlank_newline 0⟩
  rw [stable, encode_ofList, bytesOf_append]
  rfl

section documents

variable {α : Type} (decoder : Decoder α)

/-- **A decoder of a document of a value is given the value.** -/
theorem decodeText_of_writes {v : Value} {text : String} (h : Writes v text) :
    decodeText decoder text = decoder maxDepth v := by
  obtain ⟨ws, t, ws', bytes, before, spelled, after⟩ := h
  rw [decodeText, decode, bytes, read_of_spells spelled before after]
  cases decoder maxDepth v <;> rfl

/-- A decoder of a text that was written on one line is given the data's tree. -/
theorem decodeText_compact (d : Data) : decodeText decoder (compact d) = decoder maxDepth d.tree :=
  decodeText_of_writes decoder (writes_compact d)

/-- So is a decoder of a text in the stable layout. -/
theorem decode_stable (d : Data) :
    decode decoder (Utf8.encode (stable d)) = decoder maxDepth d.tree :=
  decodeText_of_writes decoder (writes_stable d)

/-- What is written in either layout is read back. -/
def ReadsBack (d : Data) (a : α) : Prop :=
  decodeText decoder (compact d) = .ok a ∧ decode decoder (Utf8.encode (stable d)) = .ok a

theorem readsBack_of_tree {d : Data} {a : α} (h : decoder maxDepth d.tree = .ok a) :
    ReadsBack decoder d a :=
  ⟨(decodeText_compact decoder d).trans h, (decode_stable decoder d).trans h⟩

end documents

end AdminConsole.Json
