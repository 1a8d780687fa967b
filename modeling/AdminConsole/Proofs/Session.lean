import AdminConsole.Proofs.Json.Members
import AdminConsole.Session

/-!
# Sessions are read as they were stored

What `Session.encode` writes, `Session.decode?` reads (`decode?_encode`): the members of the object
fill the fields, whatever the texts in them. So it is with claims and with the backend's view of the
user. Claims that are read may be of no use yet (`Claims.validate_eq_ok_iff`). -/

namespace AdminConsole

open Json Record

namespace Session

theorem decoder_toData (s : Session) : decoder maxDepth s.toData.tree = .ok s := by
  have text := Decoder.optional_text_ofOption 127
  have texts := Decoder.textSet_ofTexts 125
  have fills : Fills record 127 _ s :=
    (((((((Fills.nil 127 Session.mk).field "userId" none (text s.userId)).field
      "token" none (text s.token)).field "username" none (text s.username)).field
      "email" none (text s.email)).field "permissions" .empty (texts s.permissions)).field
      "privileges" .empty (texts s.privileges)).field
      "acceptedTOS" false (Decoder.flag_bool 127 s.acceptedTos)
  exact fills.decoder_object (by decide)

/-- **The stored text of a session is read as the session.** -/
theorem decode?_encode (s : Session) : decode? s.encode = some s := by
  rw [decode?, encode, decodeText_compact, decoder_toData]
  rfl

end Session

theorem Claims.decoder_toData (c : Claims) : decoder maxDepth c.toData.tree = .ok c := by
  have fills : Fills record 127 _ c :=
    (((((Fills.nil 127 Claims.mk).field "userId" "" (Decoder.text_string 127 c.userId)).field
      "token" "" (Decoder.text_string 127 c.token)).field
      "email" "" (Decoder.text_string 127 c.email)).field
      "permissions" .empty (Decoder.textSet_ofTexts 125 c.permissions)).field
      "acceptedTOS" false (Decoder.flag_bool 127 c.acceptedTos)
  exact fills.decoder_object (by decide)

/-- Claims make a session if neither the token nor the email is blank. -/
theorem Claims.validate_eq_ok_iff {c : Claims} : c.validate = .ok () ↔
    Text.isAllBlank c.token = false ∧ Text.isAllBlank c.email = false := by
  unfold validate
  cases Text.isAllBlank c.token <;> cases Text.isAllBlank c.email <;> simp

theorem CurrentUser.decoder_toData (u : CurrentUser) : decoder maxDepth u.toData.tree = .ok u := by
  have text := Decoder.optional_text_ofOption 127
  have texts := Decoder.textSet_ofTexts 125
  have fills : Fills record 127 _ u :=
    ((((((Fills.nil 127 CurrentUser.mk).field "uuid" none (text u.uuid)).field
      "email" none (text u.email)).field "privileges" .empty (texts u.privileges)).field
      "queryScopes" .empty (texts u.queryScopes)).field
      "acceptedTOS" false (Decoder.flag_bool 127 u.acceptedTos)).field "token" none (text u.token)
  exact fills.decoder_object (by decide)

/-! ### Fields -/

section fields

variable {depth : Nat} {get : String → Option Value}

namespace Session

/-- What stands under each name is read as the field of the session. -/
structure ReadFrom (depth : Nat) (get : String → Option Value) (s : Session) : Prop where
  userId : ReadsAs (.optional .text) none depth (get "userId") s.userId
  token : ReadsAs (.optional .text) none depth (get "token") s.token
  username : ReadsAs (.optional .text) none depth (get "username") s.username
  email : ReadsAs (.optional .text) none depth (get "email") s.email
  permissions : ReadsAs .textSet .empty depth (get "permissions") s.permissions
  privileges : ReadsAs .textSet .empty depth (get "privileges") s.privileges
  acceptedTos : ReadsAs .flag false depth (get "acceptedTOS") s.acceptedTos

theorem build_iff {s : Session} : record.build depth get = .ok s ↔ ReadFrom depth get s := by
  simp only [record, optionalText, map_eq_seq, build_seq_iff, build_pure_iff, build_field_iff]
  constructor
  · rintro ⟨_, _, ⟨_, _, ⟨_, _, ⟨_, _, ⟨_, _, ⟨_, _, ⟨_, _, rfl, userId, rfl⟩, token, rfl⟩, username,
      rfl⟩, email, rfl⟩, permissions, rfl⟩, privileges, rfl⟩, acceptedTos, rfl⟩
    exact ⟨userId, token, username, email, permissions, privileges, acceptedTos⟩
  · rintro ⟨userId, token, username, email, permissions, privileges, acceptedTos⟩
    exact ⟨_, _, ⟨_, _, ⟨_, _, ⟨_, _, ⟨_, _, ⟨_, _, ⟨_, _, rfl, userId, rfl⟩, token, rfl⟩, username,
      rfl⟩, email, rfl⟩, permissions, rfl⟩, privileges, rfl⟩, acceptedTos, rfl⟩

theorem isOpen_record : record.IsOpen :=
  (((((((isOpen_pure Session.mk).seq (isOpen_field ..)).seq (isOpen_field ..)).seq
    (isOpen_field ..)).seq (isOpen_field ..)).seq (isOpen_field ..)).seq (isOpen_field ..)).seq
    (isOpen_field ..)

end Session

namespace Claims

/-- What stands under each name is read as the field of the claims. -/
structure ReadFrom (depth : Nat) (get : String → Option Value) (c : Claims) : Prop where
  userId : ReadsAs .text "" depth (get "userId") c.userId
  token : ReadsAs .text "" depth (get "token") c.token
  email : ReadsAs .text "" depth (get "email") c.email
  permissions : ReadsAs .textSet .empty depth (get "permissions") c.permissions
  acceptedTos : ReadsAs .flag false depth (get "acceptedTOS") c.acceptedTos

theorem build_iff {c : Claims} : record.build depth get = .ok c ↔ ReadFrom depth get c := by
  simp only [record, map_eq_seq, build_seq_iff, build_pure_iff, build_field_iff]
  constructor
  · rintro ⟨_, _, ⟨_, _, ⟨_, _, ⟨_, _, ⟨_, _, rfl, userId, rfl⟩, token, rfl⟩, email, rfl⟩,
      permissions, rfl⟩, acceptedTos, rfl⟩
    exact ⟨userId, token, email, permissions, acceptedTos⟩
  · rintro ⟨userId, token, email, permissions, acceptedTos⟩
    exact ⟨_, _, ⟨_, _, ⟨_, _, ⟨_, _, ⟨_, _, rfl, userId, rfl⟩, token, rfl⟩, email, rfl⟩,
      permissions, rfl⟩, acceptedTos, rfl⟩

theorem isOpen_record : record.IsOpen :=
  (((((isOpen_pure Claims.mk).seq (isOpen_field ..)).seq (isOpen_field ..)).seq
    (isOpen_field ..)).seq (isOpen_field ..)).seq (isOpen_field ..)

end Claims

namespace CurrentUser

/-- What stands under each name is read as the field of the user. -/
structure ReadFrom (depth : Nat) (get : String → Option Value) (u : CurrentUser) : Prop where
  uuid : ReadsAs (.optional .text) none depth (get "uuid") u.uuid
  email : ReadsAs (.optional .text) none depth (get "email") u.email
  privileges : ReadsAs .textSet .empty depth (get "privileges") u.privileges
  queryScopes : ReadsAs .textSet .empty depth (get "queryScopes") u.queryScopes
  acceptedTos : ReadsAs .flag false depth (get "acceptedTOS") u.acceptedTos
  token : ReadsAs (.optional .text) none depth (get "token") u.token

theorem build_iff {u : CurrentUser} : record.build depth get = .ok u ↔ ReadFrom depth get u := by
  simp only [record, optionalText, map_eq_seq, build_seq_iff, build_pure_iff, build_field_iff]
  constructor
  · rintro ⟨_, _, ⟨_, _, ⟨_, _, ⟨_, _, ⟨_, _, ⟨_, _, rfl, uuid, rfl⟩, email, rfl⟩, privileges, rfl⟩,
      queryScopes, rfl⟩, acceptedTos, rfl⟩, token, rfl⟩
    exact ⟨uuid, email, privileges, queryScopes, acceptedTos, token⟩
  · rintro ⟨uuid, email, privileges, queryScopes, acceptedTos, token⟩
    exact ⟨_, _, ⟨_, _, ⟨_, _, ⟨_, _, ⟨_, _, ⟨_, _, rfl, uuid, rfl⟩, email, rfl⟩, privileges, rfl⟩,
      queryScopes, rfl⟩, acceptedTos, rfl⟩, token, rfl⟩

theorem isOpen_record : record.IsOpen :=
  ((((((isOpen_pure CurrentUser.mk).seq (isOpen_field ..)).seq (isOpen_field ..)).seq
    (isOpen_field ..)).seq (isOpen_field ..)).seq (isOpen_field ..)).seq (isOpen_field ..)

end CurrentUser

end fields

end AdminConsole
