import AdminConsole.Files.Disk
import Mathlib.Data.List.Induction

/-!
# What operations leave of a tree

In a rooted tree everything stands in a directory, and so every way leads to one. A tree grows when
none of its directories goes away: a way that led somewhere still leads there. Every operation keeps
the tree rooted and lets it grow, and what it leaves at an address can be read off what was there. -/

namespace AdminConsole.FileTree

variable {t t' : FileTree} {p q : Place} {a b : Address} {n : FileNode} {bytes : List UInt8}
  {e : OsError} {names : List String}

/-- Whatever is in the tree is in a directory. -/
def Rooted (t : FileTree) : Prop :=
  ∀ a n, t.node? a = some n → t.node? a.dropLast = some .directory

/-- No directory goes away. -/
def Grows (t t' : FileTree) : Prop :=
  ∀ a, t.node? a = some .directory → t'.node? a = some .directory

theorem ne_nil_of_node? (h : t.node? a ≠ some .directory) : a ≠ [] := by
  rintro rfl
  exact h rfl

namespace Rooted

theorem of_nodes (h : ∀ e ∈ t.nodes, t.node? e.1.dropLast = some .directory) : t.Rooted := by
  intro a n there
  by_cases top : a = []
  · rw [top]
    rfl
  · rw [node?, if_neg top] at there
    obtain ⟨before, after, eq, -⟩ := List.lookup_eq_some_iff.mp there
    exact h (a, n) (by simp [eq])

theorem put (ht : t.Rooted) (parent : t.node? a.dropLast = some .directory) (ne : a ≠ [])
    (kept : n = .directory ∨ t.node? a ≠ some .directory) : (t.put a n).Rooted := by
  intro b m there
  have dir : t.node? b.dropLast = some .directory := by
    rw [node?_put ne] at there
    by_cases here : b = a
    · exact here ▸ parent
    · rw [if_neg here] at there
      exact ht b m there
  rw [node?_put ne]
  by_cases up : b.dropLast = a
  · rcases kept with rfl | free
    · rw [if_pos up]
    · exact absurd (up ▸ dir) free
  · rwa [if_neg up]

theorem erase (ht : t.Rooted) (free : t.node? a ≠ some .directory) : (t.erase a).Rooted := by
  have ne := ne_nil_of_node? free
  intro b m there
  rw [node?_erase ne] at there ⊢
  by_cases here : b = a
  · simp [here] at there
  · rw [if_neg here] at there
    have dir := ht b m there
    have other : b.dropLast ≠ a := fun up => free (up ▸ dir)
    rwa [if_neg other]

end Rooted

namespace Grows

theorem refl (t : FileTree) : t.Grows t := fun _ dir => dir

theorem trans {t'' : FileTree} (first : t.Grows t') (next : t'.Grows t'') : t.Grows t'' :=
  fun a dir => next a (first a dir)

theorem put (ne : a ≠ []) (kept : n = .directory ∨ t.node? a ≠ some .directory) :
    t.Grows (t.put a n) := by
  intro b dir
  rw [node?_put ne]
  by_cases here : b = a
  · rcases kept with rfl | free
    · rw [if_pos here]
    · exact absurd (here ▸ dir) free
  · rwa [if_neg here]

theorem erase (free : t.node? a ≠ some .directory) : t.Grows (t.erase a) := by
  intro b dir
  have other : b ≠ a := fun here => free (here ▸ dir)
  rwa [node?_erase (ne_nil_of_node? free), if_neg other]

end Grows

/-! ### Ways -/

theorem Rooted.directory_of_walk (ht : t.Rooted) (start : t.node? a = some .directory)
    (h : t.walk a names = .ok b) : t.node? b = some .directory := by
  fun_induction walk t a names with
  | case1 a => exact Except.ok.inj h ▸ start
  | case2 a rest ih => exact ih (ht a _ start) h
  | case3 a name rest down here ih => exact ih here h
  | case4 | case5 => cases h

theorem Grows.walk (grows : t.Grows t') (h : t.walk a names = .ok b) : t'.walk a names = .ok b := by
  fun_induction FileTree.walk t a names with
  | case1 a => exact h
  | case2 a rest ih =>
    rw [FileTree.walk, if_pos rfl]
    exact ih h
  | case3 a name rest down here ih =>
    rw [FileTree.walk, if_neg down, grows _ here]
    exact ih h
  | case4 | case5 => cases h

/-- The directories around a directory are there. -/
theorem Rooted.directory_of_prefix (ht : t.Rooted) (there : t.node? a = some .directory)
    (h : b <+: a) : t.node? b = some .directory := by
  induction a using List.reverseRecOn with
  | nil => exact (List.prefix_nil.mp h) ▸ there
  | append_singleton a name ih =>
    rcases List.prefix_concat_iff.mp h with rfl | h
    · exact there
    · have parent := ht _ _ there
      rw [List.dropLast_concat] at parent
      exact ih parent h

/-- Without `..` a way can only lead to the address that its names make. -/
theorem eq_of_walk_straight (straight : ".." ∉ names) (h : t.walk a names = .ok b) :
    b = a ++ names := by
  fun_induction walk t a names with
  | case1 a =>
    rw [List.append_nil]
    exact (Except.ok.inj h).symm
  | case2 a rest ih => exact absurd List.mem_cons_self straight
  | case3 a name rest down here ih =>
    rw [List.append_cons]
    exact ih (fun up => straight (List.mem_cons_of_mem _ up)) h
  | case4 | case5 => cases h

theorem Rooted.walk_straight (ht : t.Rooted) (straight : ".." ∉ names)
    (there : t.node? (a ++ names) = some .directory) : t.walk a names = .ok (a ++ names) := by
  induction names generalizing a with
  | nil => rw [walk, List.append_nil]
  | cons name rest ih =>
    rw [List.mem_cons, not_or] at straight
    rw [List.append_cons] at there ⊢
    have here := ht.directory_of_prefix there (List.prefix_append _ _)
    rw [walk, if_neg (Ne.symm straight.1), here]
    exact ih straight.2 there

theorem address?_eq_ok_iff {o : Option Address} :
    t.address? p = .ok o ↔ ∃ a, t.walk [] p.way = .ok a ∧ o = p.name?.map fun name => a ++ [name] := by
  unfold address?
  cases t.walk [] p.way with
  | error e => simp [bind, Except.bind]
  | ok a => simp [bind, Except.bind, pure, Except.pure, eq_comm]

theorem Grows.address? (grows : t.Grows t') {o : Option Address} (h : t.address? p = .ok o) :
    t'.address? p = .ok o := by
  obtain ⟨a, walked, rfl⟩ := address?_eq_ok_iff.mp h
  exact address?_eq_ok_iff.mpr ⟨a, grows.walk walked, rfl⟩

/-- What is named is in a directory. -/
theorem Rooted.of_address? (ht : t.Rooted) (h : t.address? p = .ok (some a)) :
    a ≠ [] ∧ t.node? a.dropLast = some .directory := by
  obtain ⟨b, walked, named⟩ := address?_eq_ok_iff.mp h
  obtain ⟨name, -, rfl⟩ := Option.map_eq_some_iff.mp named.symm
  refine ⟨by simp, ?_⟩
  rw [List.dropLast_concat]
  exact ht.directory_of_walk rfl walked

/-- Making directories cannot change where a place leads: it has no `..`, or its directory is
there. -/
def Fixes (t : FileTree) (p : Place) : Prop :=
  ".." ∉ p.way ∨ ∃ a, t.walk [] p.way = .ok a

theorem Fixes.grows (fixes : t.Fixes p) (grows : t.Grows t') : t'.Fixes p := by
  rcases fixes with straight | ⟨a, walked⟩
  · exact .inl straight
  · exact .inr ⟨a, grows.walk walked⟩

/-- What has been there before, and is what a place names now, is what it named before. -/
theorem Fixes.address? (ht : t.Rooted) (fixes : t.Fixes p) (grows : t.Grows t')
    (named : t'.address? p = .ok (some a)) (there : t.node? a ≠ none) :
    t.address? p = .ok (some a) := by
  obtain ⟨b, walked, eq⟩ := address?_eq_ok_iff.mp named
  refine address?_eq_ok_iff.mpr ⟨b, ?_, eq⟩
  rcases fixes with straight | ⟨c, before⟩
  · obtain rfl := eq_of_walk_straight straight walked
    obtain ⟨name, -, rfl⟩ := Option.map_eq_some_iff.mp eq.symm
    obtain ⟨n, here⟩ := Option.ne_none_iff_exists'.mp there
    have parent := ht _ _ here
    rw [List.dropLast_concat] at parent
    exact ht.walk_straight straight parent
  · have same := (grows.walk before).symm.trans walked
    rw [before, same]

/-! ### What success means -/

theorem bind_eq_ok {α β : Type} {x : Except OsError α} {f : α → Except OsError β} {y : β}
    (h : x >>= f = .ok y) : ∃ a, x = .ok a ∧ f a = .ok y := by
  cases x with
  | error e => cases h
  | ok a => exact ⟨a, rfl, h⟩

theorem readFile_of_address? (named : t.address? p = .ok (some a)) :
    t.readFile p = match t.node? a with
      | some (.file bytes) => if p.slash then .error .notDirectory else .ok bytes
      | some .directory => .error .isDirectory
      | none => .error .notFound := by
  unfold readFile
  rw [named]
  rfl

theorem of_readFile (h : t.readFile p = .ok bytes) : p.slash = false ∧
    ∃ a, t.address? p = .ok (some a) ∧ t.node? a = some (.file bytes) := by
  obtain ⟨o, named, h⟩ := bind_eq_ok h
  cases o with
  | none => cases h
  | some a =>
    dsimp only at h
    split at h
    · next found there =>
      split at h
      · cases h
      · next plain =>
        obtain rfl := Except.ok.inj h
        exact ⟨by simpa using plain, a, named, there⟩
    · cases h
    · cases h

theorem readFile_eq_ok_iff : t.readFile p = .ok bytes ↔
    p.slash = false ∧ ∃ a, t.address? p = .ok (some a) ∧ t.node? a = some (.file bytes) := by
  refine ⟨of_readFile, fun ⟨plain, a, named, there⟩ => ?_⟩
  rw [readFile_of_address? named, there, plain]
  rfl

theorem of_removeFile (h : t.removeFile p = .ok t') :
    ∃ a, t.address? p = .ok (some a) ∧ t.node? a ≠ some .directory ∧ t' = t.erase a := by
  obtain ⟨o, named, h⟩ := bind_eq_ok h
  cases o with
  | none => cases h
  | some a =>
    dsimp only at h
    split at h
    · next there =>
      split at h
      · cases h
      · refine ⟨a, named, ?_, (Except.ok.inj h).symm⟩
        rw [there]
        simp
    · cases h
    · cases h

theorem removeFile_of_address? (named : t.address? p = .ok (some a)) :
    t.removeFile p = match t.node? a with
      | some (.file _) => if p.slash then .error .notDirectory else .ok (t.erase a)
      | some .directory => .error .isDirectory
      | none => .error .notFound := by
  unfold removeFile
  rw [named]
  rfl

theorem of_writeFile (h : t.writeFile p bytes = .ok t') : p.slash = false ∧
    ∃ a, t.address? p = .ok (some a) ∧ t.node? a ≠ some .directory ∧ t' = t.put a (.file bytes) := by
  obtain ⟨o, named, h⟩ := bind_eq_ok h
  cases o with
  | none => cases h
  | some a =>
    dsimp only at h
    split at h
    · cases h
    · next free =>
      rw [Bool.or_eq_true, decide_eq_true_iff, not_or, Bool.not_eq_true] at free
      exact ⟨free.1, a, named, free.2, (Except.ok.inj h).symm⟩

theorem of_renameFile (h : t.renameFile p q = .ok t') : q.slash = false ∧
    ∃ a b bytes, t.address? p = .ok (some a) ∧ t.node? a = some (.file bytes) ∧
      t.address? q = .ok (some b) ∧ t.node? b ≠ some .directory ∧
      t' = (t.erase a).put b (.file bytes) := by
  obtain ⟨o, source, h⟩ := bind_eq_ok h
  cases o with
  | none => cases h
  | some a =>
    obtain ⟨o, target, h⟩ := bind_eq_ok h
    cases o with
    | none => cases h
    | some b =>
      obtain ⟨bytes, read, h⟩ := bind_eq_ok h
      obtain ⟨-, a', source', there⟩ := of_readFile read
      obtain rfl : a = a' := by simpa [source] using source'
      split at h
      · cases h
      · next plain =>
        split at h
        · cases h
        · next free =>
          have eq := Except.ok.inj h
          exact ⟨by simpa using plain, a, b, bytes, source, there, target, free, eq.symm⟩

/-! ### What is kept -/

/-- A file that is put where no directory is leaves every directory. -/
theorem Rooted.put_file (ht : t.Rooted) (named : t.address? p = .ok (some a))
    (free : t.node? a ≠ some .directory) :
    (t.put a (.file bytes)).Rooted ∧ t.Grows (t.put a (.file bytes)) := by
  obtain ⟨ne, parent⟩ := ht.of_address? named
  exact ⟨ht.put parent ne (.inr free), .put ne (.inr free)⟩

/-- So does one that is moved there. -/
theorem Rooted.move_file (ht : t.Rooted) (source : t.node? a = some (.file bytes))
    (named : t.address? q = .ok (some b)) (free : t.node? b ≠ some .directory) :
    ((t.erase a).put b (.file bytes)).Rooted ∧ t.Grows ((t.erase a).put b (.file bytes)) := by
  have moved : t.node? a ≠ some .directory := by simp [source]
  have grows := Grows.erase moved
  have free' : (t.erase a).node? b ≠ some .directory := by
    rw [node?_erase (ne_nil_of_node? moved)]
    split
    · simp
    · exact free
  have kept : ((t.erase a).put b (.file bytes)).Rooted ∧
      (t.erase a).Grows ((t.erase a).put b (.file bytes)) :=
    (ht.erase moved).put_file (grows.address? named) free'
  exact ⟨kept.1, grows.trans kept.2⟩

/-! ### Making directories -/

/-- The directories on a way have been made, as far as the way goes on, and nothing else has
changed. -/
structure Opens (t : FileTree) (a : Address) (names : List String) (r : Except OsError Unit)
    (t' : FileTree) : Prop where
  rooted : t'.Rooted
  kept : ∀ b, t.node? b ≠ none → t'.node? b = t.node? b
  made : ∀ b, t.node? b = none → t'.node? b = none ∨
    t'.node? b = some .directory ∧ ∃ front, front <+: names ∧ t'.walk a front = .ok b
  opened : r = .ok () → ∃ b, t'.walk a names = .ok b

theorem Opens.grows {r : Except OsError Unit} (opens : t.Opens a names r t') : t.Grows t' := by
  intro b dir
  rw [opens.kept b (by simp [dir]), dir]

theorem Opens.file_iff {r : Except OsError Unit} (opens : t.Opens a names r t') :
    t'.node? b = some (.file bytes) ↔ t.node? b = some (.file bytes) := by
  by_cases absent : t.node? b = none
  · rw [absent]
    rcases opens.made b absent with still | ⟨dir, -⟩
    · rw [still]
    · rw [dir]
      simp
  · rw [opens.kept b absent]

theorem Opens.up {r : Except OsError Unit} (opens : t.Opens a.dropLast names r t') :
    t.Opens a (".." :: names) r t' := by
  have step (front : List String) : t'.walk a (".." :: front) = t'.walk a.dropLast front := by
    rw [walk, if_pos rfl]
  refine ⟨opens.rooted, opens.kept, fun b absent => ?_, fun ok => ?_⟩
  · rcases opens.made b absent with still | ⟨dir, front, prefixed, walked⟩
    · exact .inl still
    · exact .inr ⟨dir, ".." :: front, by simpa using prefixed, by rwa [step]⟩
  · rw [step]
    exact opens.opened ok

theorem Opens.down {r : Except OsError Unit} {name : String} (down : name ≠ "..")
    (here : t.node? (a ++ [name]) = some .directory) (opens : t.Opens (a ++ [name]) names r t') :
    t.Opens a (name :: names) r t' := by
  have step (front : List String) : t'.walk a (name :: front) = t'.walk (a ++ [name]) front := by
    rw [walk, if_neg down, opens.grows _ here]
  refine ⟨opens.rooted, opens.kept, fun b absent => ?_, fun ok => ?_⟩
  · rcases opens.made b absent with still | ⟨dir, front, prefixed, walked⟩
    · exact .inl still
    · exact .inr ⟨dir, name :: front, by simpa using prefixed, by rwa [step]⟩
  · rw [step]
    exact opens.opened ok

/-- A directory that was made before the others is one that is made. -/
theorem Opens.of_put {r : Except OsError Unit} {name : String} (down : name ≠ "..")
    (absent : t.node? (a ++ [name]) = none)
    (opens : (t.put (a ++ [name]) .directory).Opens a (name :: names) r t') :
    t.Opens a (name :: names) r t' := by
  have node (b : Address) : (t.put (a ++ [name]) .directory).node? b =
      if b = a ++ [name] then some .directory else t.node? b := node?_put (by simp)
  have now : t'.node? (a ++ [name]) = some .directory := opens.grows _ (by rw [node, if_pos rfl])
  refine ⟨opens.rooted, fun b there => ?_, fun b missing => ?_, opens.opened⟩
  · have other : b ≠ a ++ [name] := fun same => there (same ▸ absent)
    have same : (t.put (a ++ [name]) .directory).node? b = t.node? b := by rw [node, if_neg other]
    rw [opens.kept b (by rwa [same]), same]
  · by_cases same : b = a ++ [name]
    · refine .inr ⟨same ▸ now, [name], by simp, ?_⟩
      rw [walk, if_neg down, now, walk, same]
    · exact opens.made b (by rwa [node, if_neg same])

theorem Rooted.opens_makeWay (ht : t.Rooted) {making : Bool} (start : t.node? a = some .directory) :
    t.Opens a names (t.makeWay making a names).1 (t.makeWay making a names).2 := by
  fun_induction makeWay t making a names with
  | case1 t making a => exact ⟨ht, fun b _ => rfl, fun b absent => .inl absent, fun _ => ⟨a, rfl⟩⟩
  | case2 t making a rest ih => exact (ih ht (ht a _ start)).up
  | case3 t making a name rest down here ih => exact (ih ht here).down down here
  | case4 t making a name rest down bytes here =>
    exact ⟨ht, fun b _ => rfl, fun b absent => .inl absent, nofun⟩
  | case5 t making a name rest down here ih =>
    have ne : a ++ [name] ≠ [] := by simp
    have parent : t.node? (a ++ [name]).dropLast = some .directory := by rwa [List.dropLast_concat]
    have now : (t.put (a ++ [name]) .directory).node? (a ++ [name]) = some .directory := by
      rw [node?_put ne, if_pos rfl]
    have opens := ih (ht.put parent ne (.inl rfl)) now
    exact .of_put down here (opens.down down now)

theorem Rooted.opens_makeDirectories (ht : t.Rooted) (p : Place) :
    t.Opens [] p.names (t.makeDirectories p).1 (t.makeDirectories p).2 :=
  ht.opens_makeWay rfl

/-! ### Programs on a tree -/

section programs

variable {α : Type} (t : FileTree) (p q : Place)

@[simp] theorem run_readFile (f : Except OsError (List UInt8) → Disk α) :
    (Disk.readFile p >>= f).runIn answer t = (f (t.readFile p)).runIn answer t := rfl

variable (f : Except OsError Unit → Disk α)

@[simp] theorem run_writeFile (bytes : List UInt8) :
    (Disk.writeFile p bytes >>= f).runIn answer t =
      (f (t.settle (t.writeFile p bytes)).1).runIn answer (t.settle (t.writeFile p bytes)).2 := rfl

@[simp] theorem run_makeDirectories :
    (Disk.makeDirectories p >>= f).runIn answer t =
      (f (t.makeDirectories p).1).runIn answer (t.makeDirectories p).2 := rfl

@[simp] theorem run_removeFile :
    (Disk.removeFile p >>= f).runIn answer t =
      (f (t.settle (t.removeFile p)).1).runIn answer (t.settle (t.removeFile p)).2 := rfl

@[simp] theorem run_renameFile :
    (Disk.renameFile p q).runIn answer t = t.settle (t.renameFile p q) := rfl

end programs

@[simp] theorem settle_ok : t.settle (.ok t') = (.ok (), t') := rfl

@[simp] theorem settle_error : t.settle (.error e) = (.error e, t) := rfl

end AdminConsole.FileTree
