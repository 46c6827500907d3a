import VpExchange.Credential.Mdoc
import VpExchange.Proofs.ByteOrder
import VpExchange.Proofs.Json.Canonical

set_option autoImplicit false

namespace VpExchange.Claims

/-- The pointer is the name of a namespace, a dot, and the name of one of its elements. Both names may
have dots of their own, so that a pointer can be cut in more than one place. -/
def Names (claims : Members) (pointer ns : String) (value : Json) : Prop :=
  ∃ (element : String) (elements : Members), pointer = ns ++ "." ++ element ∧
    claims.get? ns = some (.obj elements) ∧ elements.get? element = some value

/-- A claim of that name goes before any element, and of several namespaces that have one the first does,
by the bytes of their names. -/
inductive Resolves (claims : Members) (pointer : String) (value : Json) : Prop
  | claim (found : claims.get? pointer = some value)
  | element {ns : String} (absent : claims.get? pointer = none) (names : Names claims pointer ns value)
      (first : ∀ ns' value', Names claims pointer ns' value' → Bytes.ofText ns ≤ Bytes.ofText ns')

theorem after?_eq_some_iff {ds cs rest : List Char} : after? ds cs = some rest ↔ cs = ds ++ rest := by
  induction ds generalizing cs with
  | nil => simp [after?]
  | cons d ds ih =>
    cases cs with
    | nil => simp [after?]
    | cons c cs =>
      by_cases same : d = c
      · simp [after?, same, ih]
      · simp [after?, same, Ne.symm same]

theorem elementOf?_eq_some_iff {pointer ns : String} {elements value : Json} :
    elementOf? pointer ns elements = some value ↔ ∃ (element : String) (members : Members),
      pointer = ns ++ "." ++ element ∧ elements = .obj members ∧ members.get? element = some value := by
  simp only [elementOf?, Option.bind_eq_bind, Option.bind_eq_some_iff, after?_eq_some_iff]
  constructor
  · rintro ⟨element, split, members, object, found⟩
    refine ⟨String.ofList element, members, ?_, ?_, found⟩
    · apply String.toList_inj.mp
      simpa using split
    · cases elements <;> cases object
      rfl
  · rintro ⟨element, members, rfl, rfl, found⟩
    exact ⟨element.toList, by simp, members, rfl, by rwa [String.ofList_toList]⟩

section Sorted

variable {claims : Members} (sorted : claims.Sorted) {pointer : String}
include sorted

theorem names_iff {ns : String} {value : Json} : Names claims pointer ns value ↔
    ∃ elements, (ns, elements) ∈ claims ∧ elementOf? pointer ns elements = some value := by
  simp only [Names, elementOf?_eq_some_iff, Members.get?_eq_some_iff_mem sorted]
  constructor
  · rintro ⟨element, members, split, inside, found⟩
    exact ⟨_, inside, element, members, split, rfl, found⟩
  · rintro ⟨_, inside, element, members, split, rfl, found⟩
    exact ⟨element, members, split, inside, found⟩

theorem findSome?_elementOf?_eq_some_iff {value : Json} :
    (claims.findSome? fun (ns, elements) => elementOf? pointer ns elements) = some value ↔
      ∃ ns, Names claims pointer ns value ∧
        ∀ ns' value', Names claims pointer ns' value' → Bytes.ofText ns ≤ Bytes.ofText ns' := by
  simp only [names_iff sorted, Bytes.ofText_le_iff]
  constructor
  · intro found
    obtain ⟨before, ⟨ns, elements⟩, after, rfl, here, missed⟩ := List.findSome?_eq_some_iff.mp found
    refine ⟨ns, ⟨elements, by simp, here⟩, ?_⟩
    rintro ns' value' ⟨elements', inside, there⟩
    -- Whatever is in front of the first one names nothing, and all the rest is behind it.
    rcases List.mem_append.mp inside with front | back
    · rw [missed _ front] at there
      cases there
    · have later := (List.pairwise_cons.mp (List.pairwise_append.mp sorted).2.1).1
      rcases List.mem_cons.mp back with same | back
      · cases same
        exact le_rfl
      · exact (later _ back).le
  · rintro ⟨ns, ⟨elements, inside, here⟩, first⟩
    obtain ⟨before, after, rfl⟩ := List.append_of_mem inside
    refine List.findSome?_eq_some_iff.mpr ⟨before, (ns, elements), after, rfl, here, ?_⟩
    rintro ⟨ns', elements'⟩ front
    have less : ns' < ns :=
      (List.pairwise_append.mp sorted).2.2 _ front _ List.mem_cons_self
    by_contra named
    obtain ⟨value', there⟩ := Option.ne_none_iff_exists'.mp named
    exact (first ns' value' ⟨elements', List.mem_append_left _ front, there⟩).not_gt less

theorem resolve?_eq_some_iff {value : Json} :
    resolve? claims pointer = some value ↔ Resolves claims pointer value := by
  rw [resolve?]
  cases given : claims.get? pointer with
  | some claim =>
    constructor
    · rintro ⟨⟩
      exact .claim given
    · rintro (found | ⟨absent, -, -⟩)
      · exact given.symm.trans found
      · cases given.symm.trans absent
  | none =>
    show claims.findSome? _ = some value ↔ _
    rw [findSome?_elementOf?_eq_some_iff sorted]
    constructor
    · rintro ⟨ns, names, first⟩
      exact .element given names first
    · rintro (found | ⟨-, names, first⟩)
      · cases given.symm.trans found
      · exact ⟨_, names, first⟩

end Sorted

def IsBlank (value : Json) : Prop :=
  value = .null ∨ ∃ s, value = .str s ∧ ∀ ch ∈ s.toList, Text.isBlank ch = true

def OfDocType (pointer : String) : Prop := ∃ front, pointer = front ++ ".doctype"

def Discloses (claims : Members) (pointer : String) : Prop :=
  ∃ value, Resolves claims pointer value ∧ ¬IsBlank value

def Granted (claims : Members) (pointer : String) : Prop :=
  OfDocType pointer ∨ Discloses claims pointer

theorem isPresent_iff {value : Json} : isPresent value = true ↔ ¬IsBlank value := by
  cases value <;> simp [isPresent, IsBlank, Text.isBlankText]

theorem isSkipped_iff {pointer : String} : isSkipped pointer = true ↔ OfDocType pointer := by
  rw [isSkipped, List.isSuffixOf_iff_suffix]
  constructor
  · rintro ⟨front, split⟩
    exact ⟨String.ofList front, String.toList_inj.mp (by simp [← split])⟩
  · rintro ⟨front, rfl⟩
    exact ⟨front.toList, by simp⟩

theorem isSatisfied_iff {claims : Members} (sorted : claims.Sorted) {pointer : String} :
    isSatisfied claims pointer = true ↔ Granted claims pointer := by
  simp only [Granted, isSatisfied, Bool.or_eq_true, isSkipped_iff, Option.any_eq_true,
    resolve?_eq_some_iff sorted, isPresent_iff, Discloses]

theorem lacking_eq (pointers : List String) : lacking pointers =
    { Refusal.invalidPresentation "device response lacks requested claims" with
      violations := pointers.map fun p => ⟨p, "claim is absent or blank"⟩ } := by
  -- Each step adds one complaint at the end, whatever is there before.
  suffices grown : ∀ r : Refusal,
      pointers.foldl (fun r p => r.withViolation p "claim is absent or blank") r =
        { r with
          violations := r.violations ++ pointers.map fun p => ⟨p, "claim is absent or blank"⟩ } from
    grown _
  induction pointers with
  | nil => simp
  | cons p ps ih =>
    intro r
    rw [List.foldl_cons, ih, List.map_cons, List.append_cons]
    rfl

theorem result_evaluate (claims : Members) (pointers : List String) :
    (evaluate claims pointers).result =
      if ∀ p ∈ pointers, isSatisfied claims p = true then .ok (pointers.map statusOf)
      else .error (lacking (pointers.filter fun p => !isSatisfied claims p)) := by
  have none : (pointers.filter fun p => !isSatisfied claims p) = [] ↔
      ∀ p ∈ pointers, isSatisfied claims p = true := by
    simp [List.filter_eq_nil_iff]
  rw [evaluate]
  split
  next all => rw [if_pos (none.mp all)]; rfl
  next unsatisfied some => rw [if_neg fun all => some (none.mpr all)]; rfl

open Classical in
/-- An evaluation grants each pointer in turn if all of them are disclosed, those to document types
excepted; and otherwise it complains about each one that is not, in the order in which they were asked
for. -/
theorem evaluate_decides {claims : Members} (sorted : claims.Sorted) (pointers : List String) :
    (evaluate claims pointers).result =
      if ∀ p ∈ pointers, Granted claims p then
        .ok (pointers.map fun p => ⟨p, if OfDocType p then .skipped else .satisfied⟩)
      else .error {
        code := .invalidPresentation
        detail := "device response lacks requested claims"
        violations := (pointers.filter fun p => ¬Granted claims p).map fun p =>
          ⟨p, "claim is absent or blank"⟩
        cause := [] } := by
  have status : statusOf = fun p => ⟨p, if OfDocType p then .skipped else .satisfied⟩ := by
    funext p
    simp only [statusOf, isSkipped_iff]
  have unmet : (fun p => !isSatisfied claims p) = fun p => decide ¬Granted claims p := by
    funext p
    simp [← isSatisfied_iff sorted]
  simp only [result_evaluate, isSatisfied_iff sorted, lacking_eq, unmet, status]
  rfl

def sampleClaims : Members :=
  [("org.iso", .obj [("18013.5.1.family_name", .str "Doe")]),
    ("org.iso.18013.5.1", .obj [("family_name", .null), ("portrait", .str " ")])]

theorem evaluate_decides_sample : sampleClaims.Sorted ∧
    (evaluate sampleClaims ["org.iso.18013.5.1.family_name", "org.iso.18013.5.1.doctype"]).result =
      .ok [⟨"org.iso.18013.5.1.family_name", .satisfied⟩, ⟨"org.iso.18013.5.1.doctype", .skipped⟩] ∧
    (evaluate sampleClaims ["org.iso.18013.5.1.portrait", "org.iso.18013.5.1.family_name",
        "org.iso.18013.5.1.portrait"]).result =
      .error ⟨.invalidPresentation, "device response lacks requested claims",
        [⟨"org.iso.18013.5.1.portrait", "claim is absent or blank"⟩,
          ⟨"org.iso.18013.5.1.portrait", "claim is absent or blank"⟩], []⟩ := by
  have sorted : sampleClaims.Sorted := by decide
  have docType : OfDocType "org.iso.18013.5.1.doctype" := ⟨"org.iso.18013.5.1", by decide⟩
  have excepted : Granted sampleClaims "org.iso.18013.5.1.doctype" := .inl docType
  have name : ¬OfDocType "org.iso.18013.5.1.family_name" := fun h =>
    absurd (isSkipped_iff.mpr h) (by decide)
  have family : Granted sampleClaims "org.iso.18013.5.1.family_name" :=
    (isSatisfied_iff sorted).mp (by decide)
  have portrait : ¬Granted sampleClaims "org.iso.18013.5.1.portrait" := fun h =>
    absurd ((isSatisfied_iff sorted).mpr h) (by decide)
  refine ⟨sorted, ?_, ?_⟩
  · rw [evaluate_decides sorted, if_pos (by simp [family, excepted])]
    simp [name, docType]
  · rw [evaluate_decides sorted, if_neg (by simp [portrait])]
    simp [family, portrait]

end VpExchange.Claims
