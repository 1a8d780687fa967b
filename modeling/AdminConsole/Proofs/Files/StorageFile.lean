import AdminConsole.Files.StorageFile
import AdminConsole.Proofs.Files.Tree
import AdminConsole.Proofs.Json.Record
import AdminConsole.Simulation.Memory

/-!
# A storage in a file is a map of texts

What the file holds is a map (`texts`), whatever else is in its place, and every call does to the map
what it says or nothing (`Request.Effect`). Beside the file and its draft a call changes nothing,
except that it makes the directories that lead to them (`Contained`). So a run of calls is answered
as a storage in memory answers it. -/

namespace AdminConsole.StorageFile

open Json Simulation

variable {t t' : FileTree} {p : Place} {m : TextMap String}

/-! ### The map in a file -/

theorem textMap_entriesData (m : TextMap String) :
    Decoder.textMap maxDepth (entriesData m).tree = .ok m := by
  have read (l : List (String × String)) :
      Decoder.entries 127 (Data.membersTree (l.map fun e => (e.1, .string e.2))) = .ok l := by
    induction l with
    | nil => rfl
    | cons e l ih =>
      simp only [List.map_cons, Data.membersTree, Decoder.entries, Decoder.text_string, ih, bind,
        Except.bind]
      rfl
  have members : (entriesData m).tree =
      .object (Data.membersTree (m.toList.map fun e => (e.1, .string e.2))) := rfl
  rw [members]
  change (do return TextMap.ofList (← Decoder.entries 127 _)) = _
  rw [read m.toList]
  exact congrArg Except.ok m.ofList_toList

/-- **The bytes that a map is written as are read as the map.** -/
theorem decode_encode (m : TextMap String) : decode (encode m) = m := by
  rw [decode, encode, decode_stable, textMap_entriesData]

/-- The texts that the file at a place holds, if a file is there. -/
def texts (t : FileTree) (p : Place) : TextMap String :=
  match t.readFile p with
  | .ok bytes => decode bytes
  | .error _ => .empty

theorem texts_of_readFile {bytes : List UInt8} (h : t.readFile p = .ok bytes) :
    texts t p = decode bytes := by
  rw [texts, h]

theorem texts_of_unreadable (h : ∀ bytes, t.readFile p ≠ .ok bytes) : texts t p = .empty := by
  unfold texts
  cases read : t.readFile p with
  | ok bytes => exact absurd read (h bytes)
  | error e => rfl

theorem texts_congr (same : ∀ bytes, t'.readFile p = .ok bytes ↔ t.readFile p = .ok bytes) :
    texts t' p = texts t p := by
  cases read : t.readFile p with
  | ok bytes => rw [texts_of_readFile read, texts_of_readFile ((same bytes).mpr read)]
  | error e =>
    have unreadable (bytes : List UInt8) : t.readFile p ≠ .ok bytes := by simp [read]
    rw [texts_of_unreadable unreadable,
      texts_of_unreadable fun bytes ok => unreadable bytes ((same bytes).mp ok)]

/-- Where making directories cannot change what a place leads to, the map stays unless the file
does not. -/
theorem texts_of_fixes (ht : t.Rooted) (fixes : t.Fixes p) (grows : t.Grows t')
    (same : ∀ a bytes, t'.address? p = .ok (some a) →
      (t'.node? a = some (.file bytes) ↔ t.node? a = some (.file bytes))) :
    texts t' p = texts t p := by
  refine texts_congr fun bytes => ?_
  rw [FileTree.readFile_eq_ok_iff, FileTree.readFile_eq_ok_iff, and_congr_right_iff]
  intro
  constructor
  · rintro ⟨a, named, there⟩
    have before := (same a bytes named).mp there
    exact ⟨a, fixes.address? ht grows named (by simp [before]), before⟩
  · rintro ⟨a, named, there⟩
    exact ⟨a, grows.address? named, (same a bytes (grows.address? named)).mpr there⟩

/-! ### The draft -/

theorem stem_append_ne (name : String) : stem name ++ ".json.tmp" ≠ name := by
  intro eq
  have length := congrArg String.length eq
  rw [stem] at eq length
  split at eq
  · rename_i front cut
    split at eq
    · simp_all
    · -- what is behind the last point of the name holds a point
      have back := congrArg (fun s => s.toList.reverse) eq
      simp only [String.toList_append, String.toList_ofList, List.reverse_append,
        List.reverse_reverse] at back
      rw [← back] at cut
      have cut : '.' :: (".json".toList.reverse ++ front) = '.' :: front := cut
      have same := congrArg List.length cut
      simp at same
      omega
  · simp at length

/-- The draft is another file than the one that it is for. -/
theorem address?_draft_ne {a : Address} (file : t.address? p = .ok (some a)) :
    t.address? (draft p) ≠ .ok (some a) := by
  intro drafted
  obtain ⟨b, walked, named⟩ := FileTree.address?_eq_ok_iff.mp file
  obtain ⟨name, known, rfl⟩ := Option.map_eq_some_iff.mp named.symm
  have beside : draft p = .file p.way (stem name ++ ".json.tmp") := by simp [draft, known]
  rw [beside] at drafted
  obtain ⟨c, walked', same⟩ := FileTree.address?_eq_ok_iff.mp drafted
  obtain rfl : b = c := Except.ok.inj (walked.symm.trans walked')
  have last := List.append_cancel_left (Option.some.inj same)
  exact stem_append_ne name (List.singleton_inj.mp last).symm

/-! ### What a call may touch -/

/-- Beside the file and its draft nothing has changed, but that directories on the way to them are
made. -/
structure Contained (t : FileTree) (p : Place) (t' : FileTree) : Prop where
  rooted : t'.Rooted
  grows : t.Grows t'
  elsewhere : ∀ a, t'.address? p ≠ .ok (some a) → t'.address? (draft p) ≠ .ok (some a) →
    t'.node? a = t.node? a ∨ t.node? a = none ∧ t'.node? a = some .directory ∧
      ∃ front, front <+: p.dropLast.names ∧ t'.walk [] front = .ok a

theorem Contained.refl (ht : t.Rooted) (p : Place) : Contained t p t :=
  ⟨ht, .refl t, fun _ _ _ => .inl rfl⟩

theorem Contained.trans {t'' : FileTree} (first : Contained t p t') (next : Contained t' p t'') :
    Contained t p t'' := by
  refine ⟨next.rooted, first.grows.trans next.grows, fun a file other => ?_⟩
  have before := first.elsewhere a (fun named => file (next.grows.address? named))
    fun named => other (next.grows.address? named)
  rcases next.elsewhere a file other with same | ⟨absent, dir, way⟩
  · rw [same]
    rcases before with kept | ⟨absent, dir, front, prefixed, walked⟩
    · exact .inl kept
    · exact .inr ⟨absent, dir, front, prefixed, next.grows.walk walked⟩
  · rcases before with kept | ⟨-, there, -⟩
    · exact .inr ⟨kept ▸ absent, dir, way⟩
    · rw [absent] at there
      cases there

theorem Contained.of_opens {r : Except OsError Unit} (opens : t.Opens [] p.dropLast.names r t') :
    Contained t p t' := by
  refine ⟨opens.rooted, opens.grows, fun a _ _ => ?_⟩
  by_cases absent : t.node? a = none
  · rcases opens.made a absent with still | ⟨dir, way⟩
    · exact .inl (still.trans absent.symm)
    · exact .inr ⟨absent, dir, way⟩
  · exact .inl (opens.kept a absent)

/-- Files may change where the file or its draft is. -/
theorem Contained.of_files (kept : t'.Rooted ∧ t.Grows t')
    (same : ∀ a, t'.address? p ≠ .ok (some a) → t'.address? (draft p) ≠ .ok (some a) →
      t'.node? a = t.node? a) : Contained t p t' :=
  ⟨kept.1, kept.2, fun a file other => .inl (same a file other)⟩

/-! ### Reading and writing the map -/

/-- What is loaded is the map. -/
theorem run_load (t : FileTree) (p : Place) : ∃ loaded,
    (load p).runIn FileTree.answer t = (loaded, t) ∧ ∀ m, loaded = .ok m → m = texts t p := by
  rw [load, FileTree.run_readFile]
  match read : t.readFile p with
  | .ok bytes => exact ⟨_, rfl, fun m eq => by cases eq; rw [texts, read]⟩
  | .error .notFound => exact ⟨_, rfl, fun m eq => by cases eq; rw [texts, read]⟩
  | .error .alreadyExists | .error .notDirectory | .error .isDirectory | .error .busy
  | .error (.other _ _) => exact ⟨_, rfl, fun m eq => by cases eq⟩

/-- A text that the file holds is read. -/
theorem run_get_of_texts {key text : String} (there : (texts t p).get? key = some text) :
    (StorageFile.get p key).runIn FileTree.answer t = (.ok (some text), t) := by
  rw [texts] at there
  rw [StorageFile.get, load, Program.run_bind, FileTree.run_readFile]
  cases read : t.readFile p with
  | error e => simp [read] at there
  | ok bytes =>
    simp only [read] at there
    rw [← there]
    rfl

/-- What writing the map leaves, with its answer. -/
structure Stores (t : FileTree) (p : Place) (m : TextMap String) (r : Except OsError Unit)
    (t' : FileTree) : Prop where
  contained : Contained t p t'
  ok : r = .ok () → t'.readFile p = .ok (encode m) ∧ t'.readFile (draft p) = .error .notFound
  error : ∀ e, r = .error e → t.Fixes p → texts t' p = texts t p

theorem contained_of_writeFile {bytes : List UInt8} (ht : t.Rooted)
    (written : t.writeFile (draft p) bytes = .ok t') : Contained t p t' ∧
      (t.Fixes p → texts t' p = texts t p) ∧
      ∀ d, t'.address? (draft p) = .ok (some d) → t'.node? d = some (.file bytes) := by
  obtain ⟨-, d, drafted, free, rfl⟩ := FileTree.of_writeFile written
  have ne := (ht.of_address? drafted).1
  have kept : (t.put d (.file bytes)).Rooted ∧ t.Grows (t.put d (.file bytes)) :=
    ht.put_file drafted free
  have drafted' := kept.2.address? drafted
  refine ⟨.of_files kept fun a _ other => ?_, fun fixes => ?_, fun d' named => ?_⟩
  · have away : a ≠ d := fun same => other (same ▸ drafted')
    rw [FileTree.node?_put ne, if_neg away]
  · refine texts_of_fixes ht fixes kept.2 fun a bytes file => ?_
    have away : a ≠ d := fun same => address?_draft_ne file (same ▸ drafted')
    rw [FileTree.node?_put ne, if_neg away]
  · obtain rfl : d = d' := by simpa [drafted'] using named
    rw [FileTree.node?_put ne, if_pos rfl]

theorem contained_of_renameFile {bytes : List UInt8} (ht : t.Rooted)
    (content : ∀ d, t.address? (draft p) = .ok (some d) → t.node? d = some (.file bytes))
    (moved : t.renameFile (draft p) p = .ok t') : Contained t p t' ∧
      t'.readFile p = .ok bytes ∧ t'.readFile (draft p) = .error .notFound := by
  obtain ⟨plain, d, b, bytes', drafted, source, file, free, rfl⟩ := FileTree.of_renameFile moved
  obtain rfl : bytes' = bytes := by simpa [source] using content d drafted
  have kept := ht.move_file source file free
  have drafted' := kept.2.address? drafted
  have file' := kept.2.address? file
  have away : d ≠ b := by
    rintro rfl
    exact address?_draft_ne file drafted
  have placed (a : Address) : ((t.erase d).put b (.file bytes')).node? a =
      if a = b then some (.file bytes') else if a = d then none else t.node? a := by
    rw [FileTree.node?_put (ht.of_address? file).1, FileTree.node?_erase (ht.of_address? drafted).1]
  refine ⟨.of_files kept fun a notFile notDraft => ?_, ?_, ?_⟩
  · have awayFile : a ≠ b := fun same => notFile (same ▸ file')
    have awayDraft : a ≠ d := fun same => notDraft (same ▸ drafted')
    rw [placed, if_neg awayFile, if_neg awayDraft]
  · rw [FileTree.readFile_eq_ok_iff]
    exact ⟨plain, b, file', by rw [placed, if_pos rfl]⟩
  · rw [FileTree.readFile_of_address? drafted', placed, if_neg away, if_pos rfl]

theorem run_store (ht : t.Rooted) (p : Place) (m : TextMap String) :
    Stores t p m ((store p m).runIn FileTree.answer t).1
      ((store p m).runIn FileTree.answer t).2 := by
  rw [store, FileTree.run_makeDirectories]
  have opens := ht.opens_makeDirectories p.dropLast
  generalize t.makeDirectories p.dropLast = made at opens ⊢
  obtain ⟨r, t₁⟩ := made
  have contained := Contained.of_opens opens
  have unchanged (fixes : t.Fixes p) : texts t₁ p = texts t p :=
    texts_of_fixes ht fixes opens.grows fun a bytes _ => opens.file_iff
  cases r with
  | error e => exact ⟨contained, nofun, fun _ _ => unchanged⟩
  | ok u =>
    simp only [FileTree.run_writeFile]
    cases written : t₁.writeFile (draft p) (encode m) with
    | error e => exact ⟨contained, nofun, fun _ _ => unchanged⟩
    | ok t₂ =>
      obtain ⟨contained₂, unchanged₂, content⟩ := contained_of_writeFile contained.rooted written
      simp only [FileTree.settle_ok, FileTree.run_renameFile]
      cases moved : t₂.renameFile (draft p) p with
      | error e =>
        refine ⟨contained.trans contained₂, nofun, fun _ _ fixes => ?_⟩
        exact (unchanged₂ (fixes.grows opens.grows)).trans (unchanged fixes)
      | ok t₃ =>
        obtain ⟨contained₃, stored⟩ := contained_of_renameFile contained₂.rooted content moved
        exact ⟨(contained.trans contained₂).trans contained₃, fun _ => stored, nofun⟩

/-! ### Calls -/

/-- A call of the storage, by keys. -/
inductive Request where
  | get (key : String)
  | set (key value : String)
  | clear

namespace Request

abbrev Result : Request → Type
  | get _ => Option String
  | _ => Unit

/-- The call on the file. -/
def onFile (p : Place) : (r : Request) → StateM FileTree (Except StorageError r.Result)
  | get key => (StorageFile.get p key).runIn FileTree.answer
  | set key value => (StorageFile.set p key value).runIn FileTree.answer
  | clear => (StorageFile.clear p).runIn FileTree.answer

/-- The call on a storage in memory. -/
def inMemory : (r : Request) → StateM Memory (Except StorageError r.Result)
  | get key => fun m => (m.get key, m)
  | set key value => fun m => m.set key value
  | clear => fun m => m.clear

/-- What a call does to the map. -/
def Effect (p : Place) (t t' : FileTree) : (r : Request) → Except StorageError r.Result → Prop
  | get key, a => t' = t ∧ ∀ text, a = .ok text → text = (texts t p).get? key
  | set key value, .ok _ =>
    texts t' p = (texts t p).insert key value ∧ t'.readFile (draft p) = .error .notFound
  | set _ _, .error _ => t.Fixes p → texts t' p = texts t p
  | clear, .ok _ => texts t' p = .empty
  | clear, .error _ => texts t' p = texts t p

end Request

theorem effect_get (ht : t.Rooted) (p : Place) (key : String) :
    (Request.get key).Effect p t ((Request.get key).onFile p t).2 ((Request.get key).onFile p t).1 ∧
      Contained t p ((Request.get key).onFile p t).2 := by
  obtain ⟨loaded, run, found⟩ := run_load t p
  have eq : (Request.get key).onFile p t = (loaded.map (·.get? key), t) := by
    rw [Request.onFile, StorageFile.get, Program.run_bind, run]
    rfl
  rw [eq]
  refine ⟨⟨rfl, fun text ok => ?_⟩, .refl ht p⟩
  cases loaded with
  | error e => cases ok
  | ok m =>
    rw [← found m rfl]
    exact (Except.ok.inj ok).symm

theorem effect_set (ht : t.Rooted) (p : Place) (key value : String) :
    (Request.set key value).Effect p t ((Request.set key value).onFile p t).2
        ((Request.set key value).onFile p t).1 ∧
      Contained t p ((Request.set key value).onFile p t).2 := by
  obtain ⟨loaded, run, found⟩ := run_load t p
  cases loaded with
  | error e =>
    have eq : (Request.set key value).onFile p t = (.error e, t) := by
      rw [Request.onFile, StorageFile.set, Program.run_bind, run]
      rfl
    rw [eq]
    exact ⟨fun _ => rfl, .refl ht p⟩
  | ok m =>
    obtain rfl := found m rfl
    obtain ⟨contained, ok, error⟩ := run_store ht p ((texts t p).insert key value)
    generalize stored : (store p ((texts t p).insert key value)).runIn FileTree.answer t = s at *
    obtain ⟨a, t'⟩ := s
    have eq : (Request.set key value).onFile p t = (a.mapError .io, t') := by
      rw [Request.onFile, StorageFile.set, Program.run_bind, run, Program.run_bind, stored]
      rfl
    rw [eq]
    refine ⟨?_, contained⟩
    cases a with
    | error e => exact error e rfl
    | ok u =>
      obtain ⟨file, clean⟩ := ok rfl
      refine ⟨?_, clean⟩
      rw [texts_of_readFile file, decode_encode]

/-- Without the file the map is empty. -/
theorem texts_erase {a : Address} (named : t.address? p = .ok (some a))
    (free : t.node? a ≠ some .directory) : texts (t.erase a) p = .empty := by
  refine texts_of_unreadable fun bytes read => ?_
  obtain ⟨-, b, named', there⟩ := FileTree.of_readFile read
  obtain rfl : a = b := by simpa [(FileTree.Grows.erase free).address? named] using named'
  rw [FileTree.node?_erase (FileTree.ne_nil_of_node? free), if_pos rfl] at there
  cases there

theorem texts_of_removeFile_notFound (h : t.removeFile p = .error .notFound) :
    texts t p = .empty := by
  refine texts_of_unreadable fun bytes read => ?_
  obtain ⟨plain, a, named, there⟩ := FileTree.of_readFile read
  rw [FileTree.removeFile_of_address? named, there, plain] at h
  cases h

theorem effect_clear (ht : t.Rooted) (p : Place) :
    Request.clear.Effect p t (Request.clear.onFile p t).2 (Request.clear.onFile p t).1 ∧
      Contained t p (Request.clear.onFile p t).2 := by
  rw [Request.onFile, StorageFile.clear, FileTree.run_removeFile]
  match removed : t.removeFile p with
  | .ok t' =>
    obtain ⟨a, named, free, rfl⟩ := FileTree.of_removeFile removed
    have grows := FileTree.Grows.erase free
    refine ⟨texts_erase named free, .of_files ⟨ht.erase free, grows⟩ fun b file _ => ?_⟩
    have away : b ≠ a := by
      rintro rfl
      exact file (grows.address? named)
    show (t.erase a).node? b = t.node? b
    rw [FileTree.node?_erase (FileTree.ne_nil_of_node? free), if_neg away]
  | .error .notFound => exact ⟨texts_of_removeFile_notFound removed, .refl ht p⟩
  | .error .alreadyExists | .error .notDirectory | .error .isDirectory | .error .busy
  | .error (.other _ _) => exact ⟨rfl, .refl ht p⟩

/-- **What a call does.** -/
theorem effect_onFile (ht : t.Rooted) (p : Place) (r : Request) :
    r.Effect p t (r.onFile p t).2 (r.onFile p t).1 ∧ Contained t p (r.onFile p t).2 := by
  cases r with
  | get key => exact effect_get ht p key
  | set key value => exact effect_set ht p key value
  | clear => exact effect_clear ht p

/-! ### Runs -/

/-- A call with its answer. -/
structure Reply where
  request : Request
  answer : Except StorageError request.Result

namespace Reply

def isOk (r : Reply) : Bool := r.answer.isOk

end Reply

/-- Makes calls one after the other. -/
def serve {σ : Type} (perform : (r : Request) → StateM σ (Except StorageError r.Result)) :
    List Request → StateM σ (List Reply)
  | [] => pure []
  | r :: rs => do
    let answer ← perform r
    return ⟨r, answer⟩ :: (← serve perform rs)

theorem serve_cons {σ : Type} (perform : (r : Request) → StateM σ (Except StorageError r.Result))
    (r : Request) (rs : List Request) (s : σ) : serve perform (r :: rs) s =
      (⟨r, (perform r s).1⟩ :: (serve perform rs (perform r s).2).1,
        (serve perform rs (perform r s).2).2) := rfl

/-- The storage in memory that holds what the file holds. -/
def memory (t : FileTree) (p : Place) : Memory := { entries := texts t p }

/-- A call that succeeds is answered as in memory, and one that fails leaves the map alone where
making directories cannot change what the place leads to. -/
theorem inMemory_of_effect {r : Request} {a : Except StorageError r.Result}
    (effect : r.Effect p t t' a) :
    (∀ x, a = .ok x → r.inMemory (memory t p) = (.ok x, memory t' p)) ∧
      ∀ e, a = .error e → t.Fixes p → memory t' p = memory t p := by
  cases r with
  | get key =>
    obtain ⟨rfl, found⟩ := effect
    refine ⟨fun text ok => ?_, fun _ _ _ => rfl⟩
    rw [found text ok]
    rfl
  | set key value =>
    cases a with
    | error e => exact ⟨nofun, fun _ _ fixes => congrArg (Memory.mk · []) (effect fixes)⟩
    | ok u =>
      refine ⟨fun x _ => ?_, nofun⟩
      rw [memory, memory, effect.1]
      rfl
  | clear =>
    cases a with
    | error e => exact ⟨nofun, fun _ _ _ => congrArg (Memory.mk · []) effect⟩
    | ok u =>
      refine ⟨fun x _ => ?_, nofun⟩
      rw [memory, memory, effect]
      rfl

theorem contained_serve (ht : t.Rooted) (p : Place) (rs : List Request) :
    Contained t p (serve (Request.onFile p) rs t).2 := by
  induction rs generalizing t with
  | nil => exact .refl ht p
  | cons r rs ih =>
    have first := (effect_onFile ht p r).2
    exact first.trans (ih first.rooted)

/-- The calls of a run that succeed are answered as in memory. -/
theorem serve_inMemory (ht : t.Rooted) (p : Place) (rs : List Request)
    (sure : t.Fixes p ∨ ∀ r ∈ (serve (Request.onFile p) rs t).1, r.isOk) :
    serve Request.inMemory
        (((serve (Request.onFile p) rs t).1.filter Reply.isOk).map Reply.request) (memory t p) =
      ((serve (Request.onFile p) rs t).1.filter Reply.isOk,
        memory (serve (Request.onFile p) rs t).2 p) := by
  induction rs generalizing t with
  | nil => rfl
  | cons r rs ih =>
    obtain ⟨effect, contained⟩ := effect_onFile ht p r
    rw [serve_cons] at sure ⊢
    have rest := ih contained.rooted <| sure.imp (·.grows contained.grows)
      fun ok r later => ok r (List.mem_cons_of_mem _ later)
    obtain ⟨success, failure⟩ := inMemory_of_effect effect
    cases answer : (r.onFile p t).1 with
    | error e =>
      have failed : ¬ (Reply.mk r (.error e)).isOk := by simp [Reply.isOk, Except.isOk, Except.toBool]
      have fixes : t.Fixes p := sure.resolve_right fun ok =>
        failed (ok _ (answer ▸ List.mem_cons_self))
      rw [List.filter_cons_of_neg failed, ← failure e answer fixes]
      exact rest
    | ok x =>
      rw [List.filter_cons_of_pos (by rfl), List.map_cons, serve_cons, success x answer, rest]

/-- **A storage in a file is a map of texts on every tree.** A call that fails leaves the map as it
is where making directories cannot change what the place leads to; where it can, the place may come
to lead to a file that was there before. -/
theorem refines_memory (p : Place) (ht : t.Rooted) :
    (∀ r : Request, r.Effect p t (r.onFile p t).2 (r.onFile p t).1 ∧
      Contained t p (r.onFile p t).2) ∧
    ∀ rs : List Request,
      let (replies, t') := serve (Request.onFile p) rs t
      let done := replies.filter Reply.isOk
      Contained t p t' ∧ (t.Fixes p ∨ (∀ r ∈ replies, r.isOk) →
        serve Request.inMemory (done.map Reply.request) (memory t p) = (done, memory t' p)) :=
  ⟨fun r => effect_onFile ht p r, fun rs => ⟨contained_serve ht p rs, serve_inMemory ht p rs⟩⟩

/-- A file that holds no object, with an old draft beside it. -/
def corruptStorage : FileTree where
  nodes := [(["data"], .directory), (["data", "storage.json"], .file [0x7b]),
    (["data", "storage.json.tmp"], .file [])]

theorem refines_memory_corruptStorage :
    corruptStorage.Rooted ∧
      let p := Place.file ["data"] "storage.json"
      let (answer, t') := (Request.set "key" "text").onFile p corruptStorage
      answer = .ok () ∧ texts t' p = TextMap.empty.insert "key" "text" ∧
        t'.readFile (draft p) = .error .notFound := by
  have rooted : corruptStorage.Rooted := .of_nodes (by decide)
  have ok : ((Request.set "key" "text").onFile (.file ["data"] "storage.json") corruptStorage).1 =
      .ok () := by decide +kernel
  have empty : texts corruptStorage (.file ["data"] "storage.json") = .empty := by decide +kernel
  have effect := ((refines_memory (.file ["data"] "storage.json") rooted).1 (.set "key" "text")).1
  rw [ok, Request.Effect, empty] at effect
  exact ⟨rooted, ok, effect⟩

/-- A map in a file, and a directory where its draft would be. -/
def blockedDraft : FileTree where
  nodes := [(["storage.json"], .file (encode (TextMap.empty.insert "key" "text"))),
    (["storage.json.tmp"], .directory)]

/-- The directory that the place leaves again is made, and then the draft cannot be written: the call
fails, and the place leads to a map that it did not lead to before. -/
theorem texts_change_blockedDraft :
    blockedDraft.Rooted ∧
      ((Request.set "key" "other").onFile (.file ["new", ".."] "storage.json") blockedDraft).1 =
        .error (.io .isDirectory) ∧
      texts blockedDraft (.file ["new", ".."] "storage.json") = .empty ∧
      texts ((Request.set "key" "other").onFile (.file ["new", ".."] "storage.json") blockedDraft).2
        (.file ["new", ".."] "storage.json") = TextMap.empty.insert "key" "text" := by
  refine ⟨.of_nodes (by decide), ?_⟩
  decide +kernel

end AdminConsole.StorageFile
