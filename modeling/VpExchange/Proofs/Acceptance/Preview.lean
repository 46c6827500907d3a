import VpExchange.Proofs.Acceptance.Decision
import VpExchange.Proofs.Json.Content
import VpExchange.Proofs.Json.Ending

set_option autoImplicit false

namespace VpExchange

theorem Text.length_preview_le (s : String) (limit : Nat) : (preview s limit).length ≤ limit + 1 := by
  rw [preview]
  split_ifs with short
  · exact short.trans (Nat.le_succ limit)
  · rw [String.length_ofList, List.length_append, List.length_take]
    exact Nat.succ_le_succ (Nat.min_le_left ..)

theorem Text.preview_preview (s : String) (limit : Nat) : preview (preview s limit) limit = preview s limit := by
  by_cases short : s.length ≤ limit
  · have whole : preview s limit = s := if_pos short
    rw [whole, whole]
  · have full : (s.toList.take limit).length = limit :=
      List.length_take_of_le (by rw [String.length_toList]; omega)
    -- A cut text has one character too many, and is cut at the same place again.
    have cut : preview s limit = String.ofList (s.toList.take limit ++ ['…']) := by
      rw [preview, if_neg short]
    rw [cut, preview, if_neg (by simp [full]), String.toList_ofList, List.take_left' full]

namespace Json

theorem read_text_of_read {input : Bytes} {j : Json} (h : read input = .ok j) (fractionless : j.IsFractionless) :
    read (Bytes.ofText j.text) = .ok j := by
  obtain ⟨j', rest, run, -, rfl⟩ := exists_run_of_read h
  obtain ⟨ranged, shallow⟩ := (Reader.yields_tree maxDepth).of_run run
  have whole : j'.canonical.IsWhole := isWhole_of_ranged (each_canonical ranged) fractionless
  rw [read_text whole (isCanonical_canonical j'), Reader.within, if_pos ((depth_canonical_le j').trans shallow)]

end Json

namespace Evidence

/-- What is shown of a query: the compact text of its value, or the text itself if that is no JSON. -/
inductive Compacts (q : String) : String → Prop
  | json {j : Json} (read : Json.read (Bytes.ofText q) = .ok j) : Compacts q j.text
  | other (unread : ∀ j, Json.read (Bytes.ofText q) ≠ .ok j) : Compacts q q

theorem compacts_compactText (q : String) : Compacts q (compactText q) := by
  rw [compactText]
  cases read : Json.read (Bytes.ofText q) with
  | ok j => exact .json read
  | error e => exact .other fun j same => by cases read.symm.trans same

theorem Compacts.eq {q full : String} (h : Compacts q full) : full = compactText q := by
  rw [compactText]
  cases h with
  | json read => rw [read]
  | other unread =>
    cases read : Json.read (Bytes.ofText q) with
    | ok j => exact absurd read (unread j)
    | error e => rfl

/-- All numbers in it are whole, if it is JSON. -/
def Fractionless (q : String) : Prop := ∀ j, Json.read (Bytes.ofText q) = .ok j → j.IsFractionless

theorem compactText_compactText {q : String} (fractionless : Fractionless q) :
    compactText (compactText q) = compactText q := by
  cases read : Json.read (Bytes.ofText q) with
  | ok j =>
    have shown : compactText q = j.text := (Compacts.eq (.json read)).symm
    rw [shown]
    exact (Compacts.eq (.json (Json.read_text_of_read read (fractionless j read)))).symm
  | error e =>
    have shown : compactText q = q :=
      (Compacts.eq (.other fun j same => by cases read.symm.trans same)).symm
    rw [shown, shown]

theorem compactText_of_mark (cs : List Char) :
    compactText (String.ofList (cs ++ ['…'])) = String.ofList (cs ++ ['…']) := by
  refine (Compacts.eq (.other fun j read => ?_)).symm
  have bytes : Bytes.ofText (String.ofList (cs ++ ['…'])) = (Bytes.ofChars cs ++ [0xE2, 0x80]) ++ [0xA6] := by
    rw [Bytes.ofText_ofList, Bytes.ofChars_append, List.append_assoc]
    rfl
  rw [bytes] at read
  exact absurd (Json.isAscii_of_read read) (by decide)

theorem previewOf_previewOf {q : String} (fractionless : Fractionless q) (limit : Nat) :
    previewOf (previewOf q limit) limit = previewOf q limit := by
  have kept : compactText (previewOf q limit) = previewOf q limit := by
    rw [previewOf, Text.preview]
    split_ifs
    · exact compactText_compactText fractionless
    · exact compactText_of_mark _
  rw [previewOf, kept, previewOf, Text.preview_preview]

end Evidence

theorem Acceptance.dcqlPreview_eq {config : Config} {b : Backend} {c : AcceptanceCommand} {t : Traced Acceptance}
    (accepted : (c.check config b).result = .ok t) : t.answer.evidence.dcqlPreview =
      c.dcql.map fun q => Evidence.previewOf q config.dcqlPreviewLimit := by
  obtain ⟨a, assembled, rfl⟩ := result_check_eq_ok_iff.mp accepted
  obtain ⟨s, token, -, -, -, rfl⟩ := assemble_eq_ok_iff.mp assembled
  rfl

theorem AcceptanceCommand.check_congr {config : Config} (b : Backend) (c : AcceptanceCommand) {q q' : String}
    (same : Evidence.previewOf q config.dcqlPreviewLimit = Evidence.previewOf q' config.dcqlPreviewLimit) :
    { c with dcql := some q }.check config b = { c with dcql := some q' }.check config b := by
  have assembled : Acceptance.assemble config b { c with dcql := some q } =
      Acceptance.assemble config b { c with dcql := some q' } := by
    simp only [Acceptance.assemble, Option.map_some, same]
    rfl
  rw [check, check, assembled]
  rfl

/-- What an accepted response shows of the query: its compact text if that is short enough, and otherwise as
much of it as fits with a mark behind. Asked with what is shown in place of the query, the verifier decides as
before and shows the same, and so does every verifier with the same limit. -/
theorem preview_settled {config : Config} {b : Backend} {c : AcceptanceCommand} {t : Traced Acceptance}
    (accepted : (c.check config b).result = .ok t) {q : String} (asked : c.dcql = some q)
    (fractionless : Evidence.Fractionless q) :
    let limit := config.dcqlPreviewLimit
    ∃ full shown, Evidence.Compacts q full ∧ t.answer.evidence.dcqlPreview = some shown ∧
      shown.length ≤ limit + 1 ∧
      (full.length ≤ limit → shown = full) ∧
      (limit < full.length → shown = String.ofList (full.toList.take limit ++ ['…'])) ∧
      { c with dcql := some shown }.check config b = c.check config b ∧
      ∀ (config' : Config) (b' : Backend) (c' : AcceptanceCommand) (t' : Traced Acceptance),
        config'.dcqlPreviewLimit = limit → c'.dcql = some shown → (c'.check config' b').result = .ok t' →
          t'.answer.evidence.dcqlPreview = some shown := by
  intro limit
  have settled : Evidence.previewOf (Evidence.previewOf q limit) limit = Evidence.previewOf q limit :=
    Evidence.previewOf_previewOf fractionless limit
  refine ⟨Evidence.compactText q, Evidence.previewOf q limit, Evidence.compacts_compactText q, ?_,
    Text.length_preview_le _ limit, fun short => if_pos short, fun long => if_neg (Nat.not_le.mpr long), ?_, ?_⟩
  · rw [Acceptance.dcqlPreview_eq accepted, asked, Option.map_some]
  · rw [AcceptanceCommand.check_congr b c settled, ← asked]
  · intro config' b' c' t' same asked' accepted'
    rw [Acceptance.dcqlPreview_eq accepted', asked', Option.map_some, same, settled]

def sampleAsked (q : String) : AcceptanceCommand :=
  { sampleSent (.plain sampleToken) with profile := .baseline, dcql := some q }

theorem preview_settled_sample :
    let config := { Config.default with dcqlPreviewLimit := 3 }
    let check q := (sampleAsked q).check config Encryption.sampleBackend
    ∃ t, (check "[1, 2]").result = .ok t ∧ t.answer.evidence.dcqlPreview = some "[1,…" ∧
      check "[1,…" = check "[1, 2]" := by
  intro config check
  have admitted : Submission.Admitted Encryption.sampleBackend (sampleAsked "[1, 2]")
      (.ofInline (sampleInline (.plain sampleToken)) sampleToken false) :=
    .plain rfl rfl rfl nofun
  have satisfied : Satisfied (some "aki:key") ["aki:key"] := by
    rintro _ ⟨⟩
    exact List.mem_singleton_self _
  have accepted : (check "[1, 2]").result = .ok _ :=
    Acceptance.result_check_eq_ok_iff.mpr ⟨_, Acceptance.assemble_eq_ok_iff.mpr
      ⟨_, "token", Submission.resolve_eq_ok_iff.mpr admitted, satisfied, by decide, rfl⟩, rfl⟩
  have read : Json.read (Bytes.ofText "[1, 2]") = .ok (.arr [.int 1, .int 2]) := rfl
  have fractionless : Evidence.Fractionless "[1, 2]" := by
    rintro j read'
    cases read.symm.trans read'
    exact ⟨trivial, trivial, trivial⟩
  obtain ⟨full, shown, compacts, preview, -, -, cut, again, -⟩ :=
    preview_settled accepted (q := "[1, 2]") rfl fractionless
  obtain rfl : full = "[1,2]" := compacts.eq.trans rfl
  obtain rfl : shown = "[1,…" := (cut (by decide)).trans rfl
  exact ⟨_, accepted, preview, again⟩

end VpExchange
