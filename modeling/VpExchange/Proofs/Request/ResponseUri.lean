import VpExchange.Config
import VpExchange.Proofs.Url.Base

set_option autoImplicit false

namespace VpExchange

namespace Url

theorem complete_of_parseBase {s : String} {u : Url} (h : parseBase s = .ok u) :
    u.Delimited ∧
      ((∃ t, u.path = .rootless t) ∨ ∃ scheme a cs, EndsOpen cs ∧ u = complete scheme a [] cs) := by
  rw [parseBase] at h
  refine ⟨delimited_of_parse h, complete_of_parse h ?_⟩
  split_ifs with slash
  · obtain ⟨front, last⟩ := List.getLast?_eq_some_iff.mp slash
    rw [last]
    exact .cleaned front
  · rw [String.toList_append]
    exact .cleaned s.toList

end Url

/-- A place to post to is built on any base but one whose path does not begin with a slash, and stands under the
scheme and the authority of the base. It spells the base and then the names if and only if the base has a path
and neither a query nor a fragment. -/
theorem response_uri_extends_base_iff {config : Config} {written : String}
    (configured : Url.parseBase written = .ok config.responseBase) {id : String}
    (named : ∀ c ∈ id.toList, Url.isNameChar c = true) :
    match config.responseBase.path with
    | .rootless _ => config.responseUri id =
      .error ["unable to build response_uri", "relative URL with a cannot-be-a-base base"]
    | .segments ss => ∃ u, config.responseUri id = .ok u ∧ u.scheme = config.responseBase.scheme ∧
      u.authority = config.responseBase.authority ∧ u.query = none ∧ u.fragment = none ∧
      (u.text = config.responseBase.text ++ "response/" ++ id ↔
        config.responseBase.query = none ∧ config.responseBase.fragment = none ∧ ss ≠ []) := by
  obtain ⟨delimited, shape⟩ := Url.complete_of_parseBase configured
  have dir : Url.IsName "response".toList := by decide
  have name : Url.IsName id.toList := fun c mem => Url.standsForItself_of_isNameChar (named c mem)
  have relative : "response/" ++ id = "response" ++ "/" ++ id := rfl
  cases path : config.responseBase.path with
  | rootless s =>
    simp [Config.responseUri, Url.join, path]
    rfl
  | segments ss =>
    obtain ⟨u, joined⟩ : ∃ u, config.responseBase.join ("response/" ++ id) = .ok u := by
      simp [Url.join, path]
    have plain : Url.Plain (Url.cleaned ("response/" ++ id).toList) := by
      rw [relative, Url.cleaned_names dir name]
      exact Url.plain_names dir name
    obtain ⟨scheme, authority, query, fragment⟩ := Url.bare_of_join delimited plain joined
    refine ⟨u, by rw [Config.responseUri, joined], scheme, authority, query, fragment, ?_⟩
    have bare (query : config.responseBase.query = none) (fragment : config.responseBase.fragment = none) :
        u.text = config.responseBase.text ++ (if ss = [] then "/" else "") ++ "response/" ++ id := by
      obtain ⟨t, rootless⟩ | ⟨scheme, a, cs, ends, completed⟩ := shape
      · cases path.symm.trans rootless
      obtain ⟨v, joined', text⟩ :=
        Url.join_of_bare ends (by decide) dir name completed query fragment
      rw [← relative, joined] at joined'
      cases joined'
      simpa [path, String.append_assoc] using text
    constructor
    · -- The URL has neither sign in its text, so a base that it spells has neither; then its path decides.
      intro text
      have spelled : Url.Plain u.text.toList :=
        (Url.delimited_of_join delimited joined).plain_text_iff.mpr ⟨query, fragment⟩
      rw [text] at spelled
      simp only [String.toList_append, Url.Plain.append_iff] at spelled
      obtain ⟨query, fragment⟩ := delimited.plain_text_iff.mp spelled.1.1
      refine ⟨query, fragment, ?_⟩
      rintro rfl
      have lengths := congrArg String.length ((bare query fragment).symm.trans text)
      simp at lengths
    · rintro ⟨query, fragment, some⟩
      rw [bare query fragment, if_neg some, String.append_empty]

def basedAt (base : Url) : Config := { Config.default with responseBase := base }

def samplePath : Config := basedAt ⟨"https", some ⟨"", "[::1]", none⟩, .segments ["verifier", ""], none, none⟩

theorem response_uri_extends_base_iff_sample :
    Url.parseBase "https://[::1]/verifier" = .ok samplePath.responseBase ∧
    ∃ u, samplePath.responseUri "req-0001" = .ok u ∧ u.text = "https://[::1]/verifier/response/req-0001" := by
  have configured : Url.parseBase "https://[::1]/verifier" = .ok samplePath.responseBase := rfl
  obtain ⟨u, built, -, -, -, -, text⟩ :=
    @response_uri_extends_base_iff samplePath _ configured "req-0001" (List.all_eq_true.mp rfl)
  exact ⟨configured, u, built, text.mpr ⟨rfl, rfl, nofun⟩⟩

-- The slash that makes the text a base has become part of the query.
def sampleTenant : Config :=
  basedAt ⟨"https", some ⟨"", "[::1]", none⟩, .segments ["verifier"], some "tenant=1/", none⟩

theorem response_uri_loses_query :
    ¬∀ (config : Config) (written id : String), Url.parseBase written = .ok config.responseBase →
      (∀ c ∈ id.toList, Url.isNameChar c = true) →
      ∃ u, config.responseUri id = .ok u ∧ u.text = config.responseBase.text ++ "response/" ++ id := by
  intro claim
  obtain ⟨u, built, text⟩ :=
    claim sampleTenant "https://[::1]/verifier?tenant=1" "req-0001" rfl (List.all_eq_true.mp rfl)
  have short : u.text = "https://[::1]/response/req-0001" := by
    cases built
    rfl
  rw [short] at text
  exact absurd text (by decide)

end VpExchange
