import AdminConsole.Files.SettingsFile
import AdminConsole.Proofs.Connection
import AdminConsole.Proofs.Files.StorageFile
import AdminConsole.Proofs.Session
import AdminConsole.Proofs.Settings
import AdminConsole.Storage.TabNotes

/-!
# What is kept comes back

Everything that is written is read back as it was, in either layout. So a storage that keeps its
texts (`Keeps`) gives back the session and the connections that were put into it, and the settings
file gives back the settings. -/

namespace AdminConsole

open Json Simulation

/-! ### Storages that keep their texts -/

section storage

variable {σ : Type}

/-- What was written into a slot is read there. -/
def Keeps (answer : (op : StorageOp) → StateM σ op.Answer) (s : σ) : Prop :=
  ∀ slot text, (answer (.write slot text) s).1 = .ok () →
    (answer (.read slot) (answer (.write slot text) s).2).1 = .ok (some text)

/-- What was put into a storage is found there. -/
structure GivesBack (answer : (op : StorageOp) → StateM σ op.Answer) (s : σ) : Prop where
  session : ∀ x : Session, ((SessionStore.replace x).runIn answer s).1 = .ok () →
    (SessionStore.get.runIn answer ((SessionStore.replace x).runIn answer s).2).1 = some x
  connections : ∀ cs : List Connection,
    ((TabNotes.cacheConnections cs).runIn answer s).1 = .ok () →
      (TabNotes.connections?.runIn answer ((TabNotes.cacheConnections cs).runIn answer s).2).1 =
        some cs

variable {answer : (op : StorageOp) → StateM σ op.Answer} {s : σ}

theorem run_write_mapError (slot : Slot) (text : String) :
    ((do return (← Storage.write slot text).mapError SessionError.storage).runIn answer s) =
      ((answer (.write slot text) s).1.mapError .storage, (answer (.write slot text) s).2) := rfl

theorem mapError_eq_ok {α ε ε' : Type} {f : ε → ε'} {e : Except ε α} {a : α} :
    e.mapError f = .ok a ↔ e = .ok a := by
  cases e <;> simp [Except.mapError]

theorem run_get_of_kept {text : String} (found : (answer (.read .session) s).1 = .ok (some text)) :
    (SessionStore.get.runIn answer s).1 = Session.decode? text := by
  have read : (Storage.read .session).runIn answer s = answer (.read .session) s := rfl
  rw [SessionStore.get, Program.run_bind, read, found, Program.run_pure]

theorem run_note_of_kept {slot : Slot} {text : String}
    (found : (answer (.read slot) s).1 = .ok (some text)) (given : Text.isAllBlank text = false) :
    ((TabNotes.read slot).runIn answer s).1 = some text := by
  have read : (Storage.read slot).runIn answer s = answer (.read slot) s := rfl
  rw [TabNotes.read, Program.run_bind, read, found, Program.run_pure, Text.given?,
    Option.filter_some, given]
  rfl

theorem Keeps.givesBack (keeps : Keeps answer s) : GivesBack answer s where
  session x ok := by
    rw [SessionStore.replace, run_write_mapError] at ok ⊢
    have found := keeps .session x.encode (mapError_eq_ok.mp ok)
    rw [run_get_of_kept found, x.decode?_encode]
  connections cs ok := by
    rw [TabNotes.cacheConnections, run_write_mapError] at ok ⊢
    have found := keeps .connections (Connection.encodeList cs) (mapError_eq_ok.mp ok)
    rw [TabNotes.connections?, Program.run_bind, Program.run_pure,
      run_note_of_kept found (Connection.isAllBlank_encodeList cs), Option.bind_some,
      Connection.decodeList?_encodeList]

end storage

theorem Simulation.Memory.keeps {m : Memory} (sound : m.faults = []) : Keeps Memory.answer m := by
  intro slot text _
  simp [Memory.answer, Memory.set, Memory.get, sound]

namespace StorageFile

/-- The operations of a storage on its file. -/
def onTree (p : Place) (op : StorageOp) : StateM FileTree op.Answer :=
  (StorageFile.answer p op).runIn FileTree.answer

theorem keeps {t : FileTree} (ht : t.Rooted) (p : Place) : Keeps (onTree p) t := by
  intro slot text ok
  have effect := (effect_set ht p slot.key text).1
  change ((Request.set slot.key text).onFile p t).1 = .ok () at ok
  rw [ok] at effect
  have held : (texts ((Request.set slot.key text).onFile p t).2 p).get? slot.key = some text := by
    rw [effect.1, TextMap.get?_insert, if_pos rfl]
  change ((StorageFile.get p slot.key).runIn FileTree.answer
    ((Request.set slot.key text).onFile p t).2).1 = _
  rw [run_get_of_texts held]

end StorageFile

/-! ### The settings file -/

theorem SettingsFile.load_save {t : FileTree} (ht : t.Rooted) (p : Place) {s : Settings}
    (fits : s.Fits) (ok : ((save p s).runIn FileTree.answer t).1 = .ok ()) :
    ((load p).runIn FileTree.answer ((save p s).runIn FileTree.answer t).2).1 = .ok s := by
  rw [save, FileTree.run_makeDirectories] at ok ⊢
  have opens := ht.opens_makeDirectories p.dropLast
  generalize t.makeDirectories p.dropLast = made at opens ok ⊢
  obtain ⟨r, t₁⟩ := made
  cases r with
  | error e => cases ok
  | ok u =>
    simp only [FileTree.run_writeFile] at ok ⊢
    cases written : t₁.writeFile p (encode s) with
    | error e => simp [written, Except.mapError] at ok
    | ok t₂ =>
      obtain ⟨plain, a, named, free, rfl⟩ := FileTree.of_writeFile written
      have file : (t₁.put a (.file (encode s))).readFile p = .ok (encode s) := by
        obtain ⟨ne, -⟩ := opens.rooted.of_address? named
        have kept : t₁.Grows (t₁.put a (.file (encode s))) := .put ne (.inr free)
        exact FileTree.readFile_eq_ok_iff.mpr
          ⟨plain, a, kept.address? named, by rw [FileTree.node?_put ne, if_pos rfl]⟩
      have decoded : decode Settings.decoder (encode s) = .ok s :=
        (readsBack_of_tree Settings.decoder (Settings.decoder_toData fits)).2
      simp only [FileTree.settle_ok, Program.run_pure, load, FileTree.run_readFile, file, decoded]
      rfl

/-- **What is written is read back.** -/
theorem written_reads_back :
    (∀ s : Session, ReadsBack Session.decoder s.toData s) ∧
    (∀ c : Claims, ReadsBack Claims.decoder c.toData c) ∧
    (∀ u : CurrentUser, ReadsBack CurrentUser.decoder u.toData u) ∧
    (∀ cs : List Connection, ReadsBack Connection.listDecoder (Connection.listData cs) cs) ∧
    (∀ s : Settings, s.Fits → ReadsBack Settings.decoder s.toData s) ∧
    (∀ m : TextMap String, ReadsBack Decoder.textMap (StorageFile.entriesData m) m) ∧
    (∀ m : Memory, m.faults = [] → GivesBack Memory.answer m) ∧
    (∀ t : FileTree, t.Rooted → ∀ p, GivesBack (StorageFile.onTree p) t) ∧
    ∀ t : FileTree, t.Rooted → ∀ (p : Place) (s : Settings), s.Fits →
      ((SettingsFile.save p s).runIn FileTree.answer t).1 = .ok () →
        ((SettingsFile.load p).runIn FileTree.answer
          ((SettingsFile.save p s).runIn FileTree.answer t).2).1 = .ok s :=
  ⟨fun s => readsBack_of_tree _ s.decoder_toData, fun c => readsBack_of_tree _ c.decoder_toData,
    fun u => readsBack_of_tree _ u.decoder_toData,
    fun cs => readsBack_of_tree _ (Connection.listDecoder_listData cs),
    fun _ fits => readsBack_of_tree _ (Settings.decoder_toData fits),
    fun m => readsBack_of_tree _ (StorageFile.textMap_entriesData m),
    fun _ sound => (Memory.keeps sound).givesBack, fun _ ht p => (StorageFile.keeps ht p).givesBack,
    fun _ ht p _ fits ok => SettingsFile.load_save ht p fits ok⟩

def longestTimeout : Settings := { timeout := UInt64.size - 1 }

def settingsPlace : Place := .file ["config"] "settings.json"

theorem written_reads_back_longestTimeout :
    ReadsBack Settings.decoder longestTimeout.toData longestTimeout ∧
    GivesBack Memory.answer {} ∧ GivesBack (StorageFile.onTree (.file ["data"] "storage.json")) {} ∧
    ((SettingsFile.load settingsPlace).runIn FileTree.answer
      ((SettingsFile.save settingsPlace longestTimeout).runIn FileTree.answer {}).2).1 =
        .ok longestTimeout := by
  have fits : longestTimeout.Fits := by decide
  have rooted : ({} : FileTree).Rooted := .of_nodes (by simp)
  have saved : ((SettingsFile.save settingsPlace longestTimeout).runIn FileTree.answer {}).1 =
      .ok () := by decide +kernel
  obtain ⟨-, -, -, -, settings, -, memory, file, settingsFile⟩ := written_reads_back
  exact ⟨settings _ fits, memory {} rfl, file {} rooted _, settingsFile {} rooted _ _ fits saved⟩

end AdminConsole
