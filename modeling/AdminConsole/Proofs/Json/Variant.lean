import AdminConsole.Json.Variant
import AdminConsole.Proofs.Json.Record

/-!
# Decoding variants that were written

A variant is written with its tag first. The members beside it are read whole, and then fill the
record of the variant (`decoder_object`). -/

namespace AdminConsole.Json.Variant

open Record

variable {α : Type} {key : String} {variants : List (Variant α)} {v : Variant α}

/-- Members that are not the tag are set aside in their order. -/
theorem cutTag_membersOf (depth : Nat) {ms : List (String × Value)}
    (others : key ∉ ms.map Prod.fst) (whole : ∀ m ∈ ms, m.2.check depth = .ok ()) :
    cutTag key variants depth (some v) (membersOf ms) = .ok (some v, membersOf ms) := by
  induction ms with
  | nil => rfl
  | cons m ms ih =>
    obtain ⟨name, value⟩ := m
    simp only [List.map_cons, List.mem_cons, not_or] at others
    obtain ⟨first, whole⟩ := List.forall_mem_cons.mp whole
    simp only [membersOf, cutTag, bind, Except.bind, if_neg (Ne.symm others.1), first,
      ih others.2 whole]
    rfl

/-- **A variant that is written with its tag first is read back.** -/
theorem decoder_object {kind tag : String} {depth : Nat} {ms : List (String × Value)} {a : α}
    (named : ofTag variants (.string (.ok tag)) = .ok v)
    (others : key ∉ v.record.fields.map (·.name))
    (whole : ∀ m ∈ ms, m.2.check (depth + 1) = .ok ()) (fills : Fills v.record (depth + 1) ms a)
    (nodup : (v.record.fields.map (·.name)).Nodup) :
    decoder kind key variants (depth + 2)
      (.object (.member (.ok key) (.string (.ok tag)) (membersOf ms))) = .ok a := by
  have cut : cutTag key variants (depth + 1) none
      (.member (.ok key) (.string (.ok tag)) (membersOf ms)) = .ok (some v, membersOf ms) := by
    simp only [cutTag, bind, Except.bind, if_true, named,
      cutTag_membersOf (depth + 1) (fills.names ▸ others) whole]
    rfl
  have filled : v.ofMembers (depth + 1) (membersOf ms) = .ok a := by
    simp only [ofMembers, bind, Except.bind, fills.ofMembers nodup]
    exact fills.built nodup
  change (cutTag key variants (depth + 1) none _ >>= fun cut => _) = _
  rw [cut]
  exact filled

end AdminConsole.Json.Variant
