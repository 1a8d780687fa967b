import AdminConsole.Proofs.Layouts

/-!
# The flag for the terms

What a value under the name of the flag does to an object that can be read without it. A truth
value, a text or null settles the flag and touches nothing else; any other value is refused, and the
object with it (`terms_flag_read`). -/

namespace AdminConsole

namespace Json

/-! ### Values that can be read -/

mutual

/-- The numbers are in range, the strings have a text, and lists and objects are inside each other
at most so many times. -/
inductive Value.IsReadable : Nat → Value → Prop
  | null (n : Nat) : Value.IsReadable n .null
  | bool (n : Nat) (b : Bool) : Value.IsReadable n (.bool b)
  | number (n : Nat) {m : Numeral} {x : Number} (h : m.value? = some x) :
    Value.IsReadable n (.number m)
  | string (n : Nat) (s : String) : Value.IsReadable n (.string (.ok s))
  | array {n : Nat} {items : Items} (h : Items.IsReadable n items) :
    Value.IsReadable (n + 1) (.array items)
  | object {n : Nat} {members : Members} (h : Members.IsReadable n members) :
    Value.IsReadable (n + 1) (.object members)

inductive Items.IsReadable : Nat → Items → Prop
  | close (n : Nat) : Items.IsReadable n .close
  | item {n : Nat} {v : Value} {rest : Items} (h : Value.IsReadable n v)
    (hr : Items.IsReadable n rest) : Items.IsReadable n (.item v rest)

inductive Members.IsReadable : Nat → Members → Prop
  | close (n : Nat) : Members.IsReadable n .close
  | member {n : Nat} (key : String) {v : Value} {rest : Members} (h : Value.IsReadable n v)
    (hr : Members.IsReadable n rest) : Members.IsReadable n (.member (.ok key) v rest)

end

theorem enter_of_lt {n depth : Nat} (fits : n + 1 < depth) :
    ∃ inner, enter depth = .ok inner ∧ n < inner := by
  obtain ⟨inner, rfl⟩ : ∃ inner, depth = inner + 2 := ⟨depth - 2, by omega⟩
  exact ⟨inner + 1, rfl, by omega⟩

mutual

/-- **A value that is not too deep is read whole.** -/
theorem check_of_isReadable {n depth : Nat} {v : Value} (h : v.IsReadable n) (fits : n < depth) :
    v.check depth = .ok () := by
  match h with
  | .null _ | .bool _ _ | .string _ _ => rfl
  | .number _ h =>
    simp only [Value.check, Numeral.read, h]
    rfl
  | .array h =>
    obtain ⟨inner, entered, fits⟩ := enter_of_lt fits
    simp only [Value.check, entered, bind, Except.bind]
    exact checkItems_of_isReadable h fits
  | .object h =>
    obtain ⟨inner, entered, fits⟩ := enter_of_lt fits
    simp only [Value.check, entered, bind, Except.bind]
    exact checkMembers_of_isReadable h fits

theorem checkItems_of_isReadable {n depth : Nat} {items : Items} (h : items.IsReadable n)
    (fits : n < depth) : items.check depth = .ok () := by
  match h with
  | .close _ => rfl
  | .item h hr =>
    rw [Items.check, check_of_isReadable h fits]
    exact checkItems_of_isReadable hr fits

theorem checkMembers_of_isReadable {n depth : Nat} {members : Members} (h : members.IsReadable n)
    (fits : n < depth) : members.check depth = .ok () := by
  match h with
  | .close _ => rfl
  | .member key h hr =>
    rw [Members.check, check_of_isReadable h fits]
    exact checkMembers_of_isReadable hr fits

end

/-! ### What the flag is read as -/

/-- A truth value, a text or null. -/
inductive Value.IsFlag : Value → Prop
  | null : Value.IsFlag .null
  | bool (b : Bool) : Value.IsFlag (.bool b)
  | string (s : String) : Value.IsFlag (.string (.ok s))

/-- True, or the word for it. -/
inductive Value.Affirms : Value → Prop
  | yes : Value.Affirms (.bool true)
  | word {s : String} (h : Text.Says "true" s) : Value.Affirms (.string (.ok s))

theorem flag_of_isFlag {depth : Nat} {v : Value} (h : v.IsFlag) {b : Bool}
    (means : b = true ↔ v.Affirms) : Decoder.flag depth v = .ok b := by
  cases h with
  | null =>
    have no : b = false := by
      cases b with
      | false => rfl
      | true => exact nomatch means.mp rfl
    rw [no]
    rfl
  | bool b' =>
    have same : b' = b := by
      rw [Bool.eq_iff_iff, means]
      constructor
      · rintro rfl
        exact .yes
      · rintro ⟨⟩
        rfl
    exact congrArg Except.ok same
  | string s =>
    have same : Decoder.isTrueText s = b := by
      rw [Bool.eq_iff_iff, means, isTrueText_iff]
      constructor
      · exact .word
      · rintro ⟨⟩
        assumption
    exact congrArg Except.ok same

/-- Any other value is refused. -/
theorem flag_of_not_isFlag {n depth : Nat} {v : Value} (h : v.IsReadable n) (fits : n < depth)
    (other : ¬ v.IsFlag) : Decoder.flag depth v = .error (.noAlternative "BoolLike") := by
  have checked := check_of_isReadable h fits
  cases h with
  | null => exact absurd .null other
  | bool _ b => exact absurd (.bool b) other
  | string _ s => exact absurd (.string s) other
  | number | array | object =>
    simp only [Decoder.flag, checked, bind, Except.bind]
    rfl

/-! ### Records with the flag -/

open Record

/-- The flag is one of the fields, and the record takes it as it is read. -/
structure HasFlag {α : Type} (r : Record α) (set : α → Bool → α) : Prop where
  isOpen : r.IsOpen
  nodup : (r.fields.map (·.name)).Nodup
  mem : ⟨"acceptedTOS", false, fun depth v => do discard (Decoder.flag depth v)⟩ ∈ r.fields
  build : ∀ {depth : Nat} {bare full : String → Option Value} {a : α} {b : Bool},
    (∀ name ≠ "acceptedTOS", full name = bare name) →
    ReadsAs .flag false depth (full "acceptedTOS") b →
    r.build depth bare = .ok a → r.build depth full = .ok (set a b)

/-- The second text is an object with the value under the name of the flag, a value that can be read
where it stands; the first is the object without it. -/
def Flagged (v : Value) (bare text : String) : Prop :=
  ∃ n before after, v.IsReadable n ∧ n + 1 < maxDepth ∧
    "acceptedTOS" ∉ (before ++ after).map Prod.fst ∧
    Writes (.object (membersOf (before ++ after))) bare ∧
    Writes (.object (membersOf (before ++ ("acceptedTOS", v) :: after))) text

/-- What is read with the value under the name of the flag, where `a` is read without it. -/
structure ReadsFlag {α : Type} (v : Value) (set : α → Bool → α) (a : α) (read : Except Cause α) :
    Prop where
  flag : v.IsFlag → ∀ b, (b = true ↔ v.Affirms) → read = .ok (set a b)
  other : ¬ v.IsFlag → read = .error (.noAlternative "BoolLike")

/-- **A flag is read and changes nothing else; what is no flag is refused with all the rest.** -/
theorem HasFlag.decodeText {α : Type} {r : Record α} {set : α → Bool → α} (hr : HasFlag r set)
    {kind : String} {v : Value} {bare text : String} (h : Flagged v bare text) {a : α}
    (read : decodeText (r.decoder kind) bare = .ok a) :
    ReadsFlag v set a (decodeText (r.decoder kind) text) := by
  obtain ⟨n, before, after, readable, fits, absent, bareText, flagText⟩ := h
  have fits : n < 127 := Nat.lt_of_succ_lt_succ fits
  rw [decodeText_of_writes _ bareText] at read
  rw [decodeText_of_writes _ flagText]
  have there : find? (before ++ ("acceptedTOS", v) :: after) "acceptedTOS" = some v := by
    rw [List.map_append, List.mem_append, not_or] at absent
    exact find?_insert_self absent.1
  constructor
  · intro isFlag b means
    refine hr.isOpen.decoder_insert hr.nodup hr.mem absent read
      (hr.build (fun name other => find?_insert_of_ne other) ?_)
    rw [there]
    exact flag_of_isFlag isFlag means
  · intro other
    refine hr.isOpen.decoder_insert_error hr.nodup hr.mem absent read ?_
    exact congrArg discard (flag_of_not_isFlag readable fits other)

end Json

open Json Record

theorem Session.hasFlag : HasFlag record fun s b => { s with acceptedTos := b } where
  isOpen := isOpen_record
  nodup := by decide
  mem := List.mem_of_getElem? (i := 6) rfl
  build := by
    intro depth bare full s b same flag built
    have fields := build_iff.mp built
    exact build_iff.mpr {
      userId := (same "userId" (by decide)).symm ▸ fields.userId
      token := (same "token" (by decide)).symm ▸ fields.token
      username := (same "username" (by decide)).symm ▸ fields.username
      email := (same "email" (by decide)).symm ▸ fields.email
      permissions := (same "permissions" (by decide)).symm ▸ fields.permissions
      privileges := (same "privileges" (by decide)).symm ▸ fields.privileges
      acceptedTos := flag }

theorem Claims.hasFlag : HasFlag record fun c b => { c with acceptedTos := b } where
  isOpen := isOpen_record
  nodup := by decide
  mem := List.mem_of_getElem? (i := 4) rfl
  build := by
    intro depth bare full c b same flag built
    have fields := build_iff.mp built
    exact build_iff.mpr {
      userId := (same "userId" (by decide)).symm ▸ fields.userId
      token := (same "token" (by decide)).symm ▸ fields.token
      email := (same "email" (by decide)).symm ▸ fields.email
      permissions := (same "permissions" (by decide)).symm ▸ fields.permissions
      acceptedTos := flag }

theorem CurrentUser.hasFlag : HasFlag record fun u b => { u with acceptedTos := b } where
  isOpen := isOpen_record
  nodup := by decide
  mem := List.mem_of_getElem? (i := 4) rfl
  build := by
    intro depth bare full u b same flag built
    have fields := build_iff.mp built
    exact build_iff.mpr {
      uuid := (same "uuid" (by decide)).symm ▸ fields.uuid
      email := (same "email" (by decide)).symm ▸ fields.email
      privileges := (same "privileges" (by decide)).symm ▸ fields.privileges
      queryScopes := (same "queryScopes" (by decide)).symm ▸ fields.queryScopes
      acceptedTos := flag
      token := (same "token" (by decide)).symm ▸ fields.token }

/-- **What a value under the name of the flag does**: where it is a truth value, a text or null, the
session, the claims or the user are those that are read without it, but for the flag, which is up if
and only if the value affirms. Where it is a number, a list or an object, nothing is read at all. -/
theorem terms_flag_read {v : Value} {bare text : String} (h : Flagged v bare text) :
    (∀ s, decodeText Session.decoder bare = .ok s →
      ReadsFlag v (fun s b => { s with acceptedTos := b }) s (decodeText Session.decoder text)) ∧
    (∀ c, decodeText Claims.decoder bare = .ok c →
      ReadsFlag v (fun c b => { c with acceptedTos := b }) c (decodeText Claims.decoder text)) ∧
    ∀ u, decodeText CurrentUser.decoder bare = .ok u →
      ReadsFlag v (fun u b => { u with acceptedTos := b }) u
        (decodeText CurrentUser.decoder text) :=
  ⟨fun _ => Session.hasFlag.decodeText h, fun _ => Claims.hasFlag.decodeText h,
    fun _ => CurrentUser.hasFlag.decodeText h⟩

/-- A session with a name and a token, and the data under the name of the flag if there is any. -/
def flaggedSession (flag : Option Data) : Data :=
  .object ([("token", .string "t"), ("username", .string "u")] ++
    flag.toList.map fun d => ("acceptedTOS", d))

/-- The session can be read without a flag and with the word for it, but not with the number one. -/
theorem terms_flag_read_one :
    let session : Session := { token := some "t", username := some "u" }
    decodeText Session.decoder (compact (flaggedSession none)) = .ok session ∧
    decodeText Session.decoder (compact (flaggedSession (some (.string " TRUE\t")))) =
      .ok { session with acceptedTos := true } ∧
    decodeText Session.decoder (compact (flaggedSession (some (.natural 1)))) =
      .error (.noAlternative "BoolLike") := by
  have bare : decodeText Session.decoder (compact (flaggedSession none)) =
      .ok { token := some "t", username := some "u" } := by
    rw [decodeText_compact]
    rfl
  have flagged : ∀ d : Data, d.tree.IsReadable 0 →
      Flagged d.tree (compact (flaggedSession none)) (compact (flaggedSession (some d))) :=
    fun d readable => ⟨0, [("token", .string (.ok "t")), ("username", .string (.ok "u"))], [],
      readable, by decide, by decide, writes_compact _, writes_compact _⟩
  have yes : Text.Says "true" " TRUE\t" := isTrueText_iff.mp (by decide +kernel)
  have word := (terms_flag_read (flagged (.string " TRUE\t") (.string 0 _))).1 _ bare
  have one := (terms_flag_read (flagged (.natural 1) (.number 0 rfl))).1 _ bare
  exact ⟨bare, word.flag (.string _) true ⟨fun _ => .word yes, fun _ => rfl⟩, one.other nofun⟩

end AdminConsole
