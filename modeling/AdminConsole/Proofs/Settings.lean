import AdminConsole.Proofs.Json.Variant
import AdminConsole.Settings

/-!
# Settings are read as they were written

The provider is a variant inside the settings, the policies are names, and the timeout is a whole
number of at most 64 bits. -/

namespace AdminConsole

open Json Record

theorem Provider.decoder_toData (p : Provider) : decoder 127 p.toData.tree = .ok p := by
  have text := Decoder.text_string 126
  cases p with
  | auth0 id domain =>
    have named : Variant.ofTag variants (.string (.ok "auth0")) = .ok variants[0] := rfl
    have fills : Fills variants[0].record (125 + 1) _ (auth0 id domain) :=
      ((Fills.nil 126 auth0).field "client_id" "" (text id)).field "domain" "avillachlab" (text domain)
    refine Variant.decoder_object named (by decide) (fun m hm => ?_) fills (by decide)
    simp only [List.nil_append, List.cons_append, List.mem_cons, List.not_mem_nil, or_false] at hm
    rcases hm with rfl | rfl <;> rfl
  | fence id url =>
    have named : Variant.ofTag variants (.string (.ok "fence")) = .ok variants[1] := rfl
    have fills : Fills variants[1].record (125 + 1) _ (fence id url) :=
      ((Fills.nil 126 fence).field "client_id" "" (text id)).requiredField "authorize_url" (text url)
    refine Variant.decoder_object named (by decide) (fun m hm => ?_) fills (by decide)
    simp only [List.nil_append, List.cons_append, List.mem_cons, List.not_mem_nil, or_false] at hm
    rcases hm with rfl | rfl <;> rfl

theorem ForbiddenPolicy.name_name (depth : Nat) (p : ForbiddenPolicy) :
    Decoder.name names depth (Data.string p.name).tree = .ok p := by
  cases p <;> rfl

theorem ConnectionPolicy.name_name (depth : Nat) (p : ConnectionPolicy) :
    Decoder.name names depth (Data.string p.name).tree = .ok p := by
  cases p <;> rfl

/-- The timeout has at most 64 bits. -/
def Settings.Fits (s : Settings) : Prop := s.timeout < UInt64.size

instance (s : Settings) : Decidable s.Fits := inferInstanceAs (Decidable (s.timeout < UInt64.size))

theorem Settings.decoder_toData {s : Settings} (fits : s.Fits) :
    decoder maxDepth s.toData.tree = .ok s := by
  have text := Decoder.text_string 127
  have optional := Decoder.optional_text_ofOption 127
  have fills : Fills record 127 _ s :=
    (((((((((Fills.nil 127 Settings.mk).field
      "backend_url" "http://localhost:8080" (text s.backendUrl)).field
      "api_base_path" "/psama" (text s.apiBasePath)).field
      "ui_base_path" "/psamaui" (text s.uiBasePath)).field
      "forbidden_policy" .notAuthorized (s.forbiddenPolicy.name_name 127)).field
      "session_variables_policy" .bestEffort (s.connectionPolicy.name_name 127)).field
      "identity_provider" .initial s.provider.decoder_toData).field
      "redirect_uri" none (optional s.redirectUri)).field "help_link" none (optional s.helpLink)).field
      "request_timeout_secs" 30 (Decoder.natural_natural 127 (Nat.le_pred_of_lt fits))
  exact fills.decoder_object (by decide)

end AdminConsole
