import VpExchange.Proofs.Request.Creation
import VpExchange.Proofs.Url.Delimiters
import VpExchange.Proofs.Url.Query

set_option autoImplicit false

namespace VpExchange

namespace Url

theorem Delimited.text_appendPairs {u : Url} (h : u.Delimited) {q : String} (ends : '#' ∉ q.toList) :
    pathText ({ u with query := some q } : Url).text.toList = pathText u.text.toList ∧
      queryIn ({ u with query := some q } : Url).text.toList = some q.toList ∧
      fragmentIn ({ u with query := some q } : Url).text.toList = fragmentIn u.text.toList := by
  have changed : ({ u with query := some q } : Url).Delimited :=
    { h with query := by rintro _ ⟨⟩; exact ends }
  refine ⟨?_, changed.queryIn_text, ?_⟩
  · rw [changed.pathText_text, h.pathText_text]
    rfl
  · rw [changed.fragmentIn_text, h.fragmentIn_text]

end Url

theorem RequestCommand.uri_of_created {config : Config} {b : Backend} {c : RequestCommand}
    {sources : Seeds.Sources} {t : Traced CreatedRequest} {uri : Url}
    (created : (c.create config b sources).1.result = .ok t) (shown : t.answer.qr = some uri) :
    uri = t.answer.request.uri config.authorizationEndpoint := by
  obtain ⟨preset, query, posted, -, -, -, -, -, rfl⟩ := create_eq_ok_iff.mp created
  replace shown : (c.createdOf config _ posted _).qr = some uri := shown
  rw [createdOf] at shown
  split_ifs at shown
  exact (Option.some.inj shown).symm

/-- The URI shown for a request reads as the endpoint's own pairs and then as the request, whatever characters
its texts have. All else in it is the endpoint's. -/
theorem uri_carries_request (config : Config) (b : Backend) (c : RequestCommand) (sources : Seeds.Sources)
    {t : Traced CreatedRequest} (created : (c.create config b sources).1.result = .ok t) {uri : Url}
    (shown : t.answer.qr = some uri) :
    let endpoint := config.authorizationEndpoint
    let r := t.answer.request
    let own := [("client_id", r.clientId), ("response_type", "vp_token"),
      ("response_mode", r.responseMode.name), ("nonce", r.nonce), ("state", r.state),
      ("dcql_query", r.presentationDefinition.text)] ++
      match r.responseUri with
      | none => []
      | some u => [("response_uri", u.text)]
    ∃ q : String, uri = { endpoint with query := some q } ∧
      Url.formPairs q.toList =
        endpoint.queryPairs ++ own.map (fun p => (Bytes.ofText p.1, Bytes.ofText p.2)) ∧
      ∀ written, Url.parse written = .ok endpoint →
        Url.queryIn uri.text.toList = some q.toList ∧
        Url.pathText uri.text.toList = Url.pathText endpoint.text.toList ∧
        Url.fragmentIn uri.text.toList = Url.fragmentIn endpoint.text.toList := by
  intro endpoint r own
  have parameters : r.parameters = own := by
    simp only [AuthorizationRequest.parameters, own]
    cases r.responseUri <;> rfl
  obtain ⟨q, changed, reads, ends⟩ := Url.appendPairs_eq endpoint r.parameters
  have built : uri = { endpoint with query := some q } :=
    (RequestCommand.uri_of_created created shown).trans changed
  refine ⟨q, built, by rw [reads, parameters], ?_⟩
  intro written parsed
  have delimited := Url.delimited_of_parse parsed
  obtain ⟨front, query, fragment⟩ := delimited.text_appendPairs (ends delimited.query)
  rw [built]
  exact ⟨query, front, fragment⟩

-- A verifier whose endpoint has a query and a fragment, and whose name would add a state of its own.
def sampleForger : Config where
  responseBase := Config.defaultBase
  authorizationEndpoint :=
    ⟨"openid4vp", some ⟨"", "authorize", none⟩, .segments [], some "via=qr", some "now"⟩
  haipClientId := "haip-simulator"
  baselineClientId := "é&state=forged#+%26"
  dcqlPreviewLimit := 256
  trustSnapshot := ⟨[]⟩

def sampleShown : RequestCommand :=
  ⟨.baseline, .fragment, none, some (.obj [("credentials", .arr [])]), false, true, false⟩

theorem uri_carries_request_forger :
    let d := (Seeds.draw sampleFresh).1
    ∃ t uri q, (sampleShown.create sampleForger sampleSigners sampleFresh).1.result = .ok t ∧
      t.answer.qr = some uri ∧ uri.query = some q ∧
      Url.formPairs q.toList = [("via", "qr"), ("client_id", "é&state=forged#+%26"),
        ("response_type", "vp_token"), ("response_mode", "fragment"), ("nonce", d.nonce), ("state", d.state),
        ("dcql_query", "\x7b\"credentials\":[]\x7d")].map (fun p => (Bytes.ofText p.1, Bytes.ofText p.2)) ∧
      Url.pathText uri.text.toList = "openid4vp://authorize".toList ∧
      Url.queryIn uri.text.toList = some q.toList ∧ Url.fragmentIn uri.text.toList = some "now".toList := by
  have created := (@RequestCommand.create_eq_ok_iff sampleForger sampleSigners sampleShown sampleFresh _).mpr
    ⟨none, _, none, .nothing rfl, nofun, .own rfl, .nowhere rfl, fun _ => by decide +kernel, rfl⟩
  have parsed : Url.parse "openid4vp://authorize?via=qr#now" = .ok sampleForger.authorizationEndpoint := rfl
  obtain ⟨q, built, reads, spelled⟩ :=
    uri_carries_request sampleForger sampleSigners sampleShown sampleFresh created rfl
  obtain ⟨query, front, fragment⟩ := spelled _ parsed
  have own : sampleForger.authorizationEndpoint.queryPairs =
      [(Bytes.ofText "via", Bytes.ofText "qr")] := Url.formPairs_formText [("via", "qr")]
  rw [own] at reads
  exact ⟨_, _, q, created, rfl, congrArg Url.query built, reads, front.trans (by decide), query,
    fragment.trans (by decide)⟩

end VpExchange
