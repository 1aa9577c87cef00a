import Gatehouse.Config.Validation
import Gatehouse.Proofs.Gateway.Wire
import Gatehouse.Proofs.Routing.Anonymous

/-!
# Pages that callers without a session are shown

The gate lets some paths through without a look at the session.  It judges the path of the request,
with the steps that are in it, and the page server is asked for what becomes of that path when they
are taken.  So the gate and the page server may speak of different pages.

* `opens_iff_opens_onWire` — what a caller without a session is shown is a page that the gate opens,
  just if the gate opens what becomes of the path; and so it is for paths of plain segments.
* `shown_behind_exempt_prefix` — an input where it is not so.
-/

set_option autoImplicit false

namespace Gatehouse
namespace Routing

/-- Whether the gate lets callers without a session through to a path. -/
def Gate.opens (gate : Gate) (path : String) : Bool :=
  gate.isExempt (.ofPath path {}) || gate.isAllowListed (.ofPath path {})

/-- The gate opens the path of a request as it stands. -/
theorem Gate.opens_normalized (gate : Gate) (uri : Http.Uri) (headers : Headers) :
    gate.opens (Request.ofUri uri headers).path =
      (gate.isExempt (.ofUri uri headers) || gate.isAllowListed (.ofUri uri headers)) := by
  have hpath : (Request.ofPath (Request.ofUri uri headers).path {}).path =
      (Request.ofUri uri headers).path :=
    Request.path_ofPath_of_isNormal (Request.isNormal_ofUri uri headers) {}
  rw [opens, isExempt_congr hpath, isAllowListed_congr hpath]

end Routing

namespace Gateway
namespace Service

/-- The registration backend of a configuration. -/
def remoteBackend (c : Config) (peers : Peers) : Registration.Backend :=
  (Registration.Remote.atUrl c.backend.apiUrl c.backend.requestTimeout peers.backend).backend

variable {c : Config} {peers : Peers} {now : Nat} {vitals : Vitals} {fresh : RequestId}
  {request : Http.Incoming} {state : State} {out : Http.Outgoing} {text : String}
  {error : SessionError}

/-- **Callers without a session are shown pages that the gate opens, just if the gate opens what
becomes of the path of the request.**  If all its segments are plain, that is the path itself.
Requests for the gateway itself are left out; one of them asks for the front page. -/
theorem opens_iff_opens_onWire (horigin : Url.IsOrigin (Path.trimEnd c.gateway.pagesUrl.toList))
    (hparsed : Http.Uri.parse text = .ok request.uri)
    (hown : Path.afterStart? ownPrefix.toList request.uri.path.toList = none)
    (herror : c.resolver.resolve now (.ofUri request.uri request.headers) = .error error)
    (hsent : out ∈ (ofConfig c peers now).sent vitals fresh request state) :
    ((c.profile.gate c.resolver.resolve).opens out.url.path.render = true ↔
      (c.profile.gate c.resolver.resolve).opens
        (onWire (Request.ofUri request.uri request.headers).path) = true) ∧
    ((∀ s ∈ Path.segments (Request.ofUri request.uri request.headers).path.toList,
        Url.IsPlainSegment s) →
      (c.profile.gate c.resolver.resolve).opens out.url.path.render = true) := by
  have hchain : (ofConfig c peers now).chain =
      c.profile.chain c.resolver.resolve (remoteBackend c peers) now := rfl
  obtain ⟨target, htarget, hout⟩ := exists_target_of_sent hchain hown hsent
  rw [hchain, Routing.Profile.decision_of_unknown herror,
    ← Routing.Gate.opens_normalized] at htarget
  split at htarget
  · next hopens =>
    cases htarget
    have hclean := Http.Uri.isClean_of_parse hparsed
    have hwire : out.url.path.render = onWire (Request.ofUri request.uri request.headers).path := by
      rw [path_of_outgoing (isOrigin_withChain _ _ horigin) hclean
        (isTarget_ofUri hclean request.headers) hout, onWire]
    refine ⟨by rw [hwire], fun hplain => ?_⟩
    rw [hwire, onWire_of_plain (Request.isNormal_ofUri _ _) hplain]
    exact hopens
  · cases htarget

theorem opens_iff_opens_onWire_asset :
    ∃ out ∈ (ofConfig plainConfig {} 0).sent {} ⟨1⟩ (bareRequest "/_next/static/app.js") {},
      (plainConfig.profile.gate plainConfig.resolver.resolve).opens out.url.path.render = true := by
  obtain ⟨out, hsent⟩ := List.exists_mem_of_length_pos
    (l := (ofConfig plainConfig {} 0).sent {} ⟨1⟩ (bareRequest "/_next/static/app.js") {})
    (by decide +kernel)
  have hparsed : Http.Uri.parse "/_next/static/app.js" =
      .ok (bareRequest "/_next/static/app.js").uri := ok_of_toOption (by decide +kernel)
  have herror : plainConfig.resolver.resolve 0
      (.ofUri (bareRequest "/_next/static/app.js").uri {}) = .error .absent := rfl
  exact ⟨out, hsent, (opens_iff_opens_onWire isOrigin_plainConfig hparsed (by decide) herror
    hsent).2 (by decide +kernel)⟩

/-- Behind an exempt prefix a step back leads to every page there is. -/
theorem shown_behind_exempt_prefix :
    plainConfig.validate.toOption = some () ∧
      (Http.Uri.parse "/_next/../administration/contacts").toOption =
        some (bareRequest "/_next/../administration/contacts").uri ∧
      plainConfig.resolver.resolve 0
        (.ofUri (bareRequest "/_next/../administration/contacts").uri {}) = .error .absent ∧
      ((ofConfig plainConfig {} 0).sent {} ⟨1⟩ (bareRequest "/_next/../administration/contacts")
        {}).map (fun out => out.url.path.render) = ["/administration/contacts"] ∧
      (plainConfig.profile.gate plainConfig.resolver.resolve).opens "/administration/contacts" =
        false := by
  refine ⟨?_, ?_, rfl, ?_, ?_⟩ <;> decide +kernel

end Service
end Gateway
end Gatehouse
