import VpExchange.Credential.SdJwt
import VpExchange.Proofs.Json.Content
import VpExchange.Text.Blank

set_option autoImplicit false

namespace VpExchange

namespace Json

theorem isCanonical_object {ms : List (String × Json)} (h : ∀ m ∈ ms, m.2.IsCanonical) :
    (object ms).IsCanonical :=
  ⟨Members.sorted_ofList ms, membersCanonical_iff.mpr fun m hm => h m (Members.mem_ofList hm)⟩

theorem isWhole_object {ms : List (String × Json)} (h : ∀ m ∈ ms, m.2.IsWhole) : (object ms).IsWhole :=
  isWhole_obj_iff.mpr fun m hm => h m (Members.mem_ofList hm)

theorem depth_object_le {ms : List (String × Json)} {n : Nat} (h : ∀ m ∈ ms, m.2.depth ≤ n) :
    (object ms).depth ≤ n + 1 :=
  Nat.succ_le_succ (depthMembers_le fun m hm => h m (Members.mem_ofList hm))

end Json

section Payload

variable (vpToken requestId credentialId format : String)

theorem isCanonical_submission : (submission requestId credentialId format).IsCanonical := by
  apply Json.isCanonical_object
  simp only [List.forall_mem_cons, List.not_mem_nil, false_imp_iff, implies_true, and_true]
  refine ⟨trivial, trivial, Json.isCanonical_object ?_, trivial⟩
  simp [Json.IsCanonical]

theorem isWhole_submission : (submission requestId credentialId format).IsWhole := by
  apply Json.isWhole_object
  simp only [List.forall_mem_cons, List.not_mem_nil, false_imp_iff, implies_true, and_true]
  refine ⟨trivial, trivial, Json.isWhole_object ?_, trivial⟩
  simp [Json.IsWhole]

theorem depth_submission_le : (submission requestId credentialId format).depth ≤ 3 := by
  apply Json.depth_object_le
  have inner : (Json.object
      [("id", .str credentialId), ("format", .str format), ("path", .str "$")]).depth ≤ 1 :=
    Json.depth_object_le (by simp [Json.depth])
  simp only [List.forall_mem_cons, List.not_mem_nil, false_imp_iff, implies_true, and_true]
  refine ⟨by simp [Json.depth], by simp [Json.depth], ?_⟩
  simpa [Json.depth, Json.depthItems] using inner

end Payload

namespace Presentation

variable {disclosures : List String} {precomputed : Option (List String)}

theorem hashes_of_paired {hs : List String} (paired : hs.length = disclosures.length) :
    hashes disclosures (some hs) = hs :=
  if_pos paired

theorem hashes_of_unpaired (unpaired : ∀ hs, precomputed = some hs → hs.length ≠ disclosures.length) :
    hashes disclosures precomputed = disclosures.map Sha256.labelled := by
  cases precomputed with
  | none => rfl
  | some hs => exact if_neg (unpaired hs rfl)

theorem length_hashes (disclosures : List String) (precomputed : Option (List String)) :
    (hashes disclosures precomputed).length = disclosures.length := by
  by_cases paired : ∃ hs, precomputed = some hs ∧ hs.length = disclosures.length
  · obtain ⟨hs, rfl, paired⟩ := paired
    rw [hashes_of_paired paired, paired]
  · rw [hashes_of_unpaired fun hs given same => paired ⟨hs, given, same⟩, List.length_map]

theorem hashes_hashes (disclosures : List String) (precomputed : Option (List String)) :
    hashes disclosures (some (hashes disclosures precomputed)) = hashes disclosures precomputed :=
  hashes_of_paired (length_hashes disclosures precomputed)

end Presentation

section Payload

variable {vpToken : String} {description : Json}

theorem get?_vpToken : (responsePayload vpToken description).get? "vp_token" = some (.str vpToken) := by
  simp [responsePayload, Members.ofList]

theorem get?_description :
    (responsePayload vpToken description).get? "presentation_submission" = some description := by
  simp [responsePayload, Members.ofList]

theorem isCanonical_payload (h : description.IsCanonical) :
    (Json.obj (responsePayload vpToken description)).IsCanonical :=
  Json.isCanonical_object (by simpa [Json.IsCanonical] using h)

theorem isWhole_payload (h : description.IsWhole) :
    (Json.obj (responsePayload vpToken description)).IsWhole :=
  Json.isWhole_object (by simpa [Json.IsWhole] using h)

theorem depth_payload_le {n : Nat} (h : description.depth ≤ n) :
    (Json.obj (responsePayload vpToken description)).depth ≤ n + 1 :=
  Json.depth_object_le (by simpa [Json.depth] using h)

end Payload

theorem SdJwt.compact_not_blank (c : SdJwt) : Text.isBlankText c.compact = false := by
  have tilde : '~' ∈ c.compact.toList := by
    rw [compact, segments, String.intercalate_cons_of_ne_nil (by simp)]
    simp
  rw [Text.isBlankText, List.all_eq_false]
  exact ⟨'~', tilde, by decide⟩

end VpExchange
