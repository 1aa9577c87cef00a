import Gatehouse.Config.Validation
import Gatehouse.Gateway.Server
import Gatehouse.Proofs.Url.Bases

/-!
# The servers of an accepted configuration

A configuration names two servers, the backend and the page server, and is accepted if their URLs
can be read.  What is asked for later is a text with a path behind, and that need not be a URL any
more: the texts are not looked at for what ends them.

* `isWeb_of_validate` — what acceptance says of the two URLs.
* `reaches_iff` — every call of the backend and every request for a page goes below the URL that was
  accepted, just if that URL is a base.
* `unreachable_after_start` — a configuration that is accepted, and under which nothing is ever
  asked for.
-/

set_option autoImplicit false

namespace Gatehouse
namespace Config

open Registration (Remote Call)
open Gateway (PageRequest Peers Service)

variable {c : Config}

/-! ## What is accepted -/

theorem exists_of_urlFault {field value : String} (h : urlFault field value = none) :
    ∃ url, Url.parse value = .ok url ∧ Url.IsWeb url.scheme := by
  unfold urlFault at h
  split at h
  · cases h
  · next url hparse =>
    split at h
    · next hweb => exact ⟨url, hparse, hweb⟩
    · cases h

theorem exists_of_apiUrlFault {value : String} (h : apiUrlFault value = none) :
    ∃ url, Url.parse value = .ok url ∧ Url.IsWeb url.scheme := by
  unfold apiUrlFault at h
  split at h
  · cases h
  · exact exists_of_urlFault h

/-- The servers of an accepted configuration are servers of the web. -/
theorem isWeb_of_validate (h : c.validate = .ok ()) :
    (∃ api, Url.parse c.backend.apiUrl = .ok api ∧ Url.IsWeb api.scheme) ∧
      ∃ pages, Url.parse c.gateway.pagesUrl = .ok pages ∧ Url.IsWeb pages.scheme := by
  rw [validate_eq_ok_iff, faults, List.filterMap_eq_nil_iff] at h
  simp only [List.forall_mem_cons, id_eq] at h
  obtain ⟨hapi, -, -, hpages, -⟩ := h
  exact ⟨exists_of_apiUrlFault hapi, exists_of_urlFault hpages⟩

/-! ## What is asked for -/

/-- The records of the backend are at plain paths. -/
theorem isPlainPath_endpoint (e : Registration.Endpoint) : Url.IsPlainPath e.path.toList := by
  cases e <;> decide +kernel

/-- The URL of a call is the path of its record behind the URL of the backend. -/
theorem url_of_call (apiUrl : String) (timeout : Nat) (peer : Http.Peer) (call : Call) :
    (Remote.atUrl apiUrl timeout peer).url call = Url.trimmed apiUrl ++ call.endpoint.path :=
  rfl

/-- The URL of a request without a query is its path behind the URL of the page server. -/
theorem url_of_page (c : Config) (peers : Peers) (now : Nat) {request : PageRequest}
    (h : request.query = none) :
    request.url (Service.ofConfig c peers now).forwarder.pagesUrl =
      Url.trimmed c.gateway.pagesUrl ++ request.path := by
  rw [PageRequest.url, h]
  exact String.append_empty

/-- **Under an accepted configuration each server is asked for URLs below its own, just if that is a
base URL.**  A call of the backend, for either record, goes to the server of the backend, with
neither a query nor a fragment and with the path of the record behind the one that is configured,
and so does a request for a page at a plain path, with the page server. -/
theorem reaches_iff (h : c.validate = .ok ()) :
    ∃ api pages, Url.parse c.backend.apiUrl = .ok api ∧ Url.parse c.gateway.pagesUrl = .ok pages ∧
      (∀ peer call,
        Url.ReadsBelow ((Remote.atUrl c.backend.apiUrl c.backend.requestTimeout peer).url call)
            api call.endpoint.path.toList ↔
          Url.IsBase c.backend.apiUrl.toList) ∧
      ∀ peers now (request : PageRequest), request.query = none →
        Url.IsPlainPath request.path.toList →
        (Url.ReadsBelow (request.url (Service.ofConfig c peers now).forwarder.pagesUrl)
            pages request.path.toList ↔
          Url.IsBase c.gateway.pagesUrl.toList) := by
  obtain ⟨⟨api, hapi, hapiWeb⟩, pages, hpages, hpagesWeb⟩ := isWeb_of_validate h
  refine ⟨api, pages, hapi, hpages, fun peer call => ?_, fun peers now request hquery hpath => ?_⟩
  · rw [url_of_call]
    exact Url.extends_iff hapi hapiWeb (isPlainPath_endpoint call.endpoint)
  · rw [url_of_page c peers now hquery]
    exact Url.extends_iff hpages hpagesWeb hpath

/-- A configuration with servers below paths of their own. -/
def behindPaths : Config where
  backend := { apiUrl := " HTTPS://registry.example:443/v1/./api/" }
  session := { secret := "s3cret" }
  gateway := { pagesUrl := "http://127.0.0.1:3000/app//" }

theorem reaches_behindPaths :
    behindPaths.validate = .ok () ∧
      (∃ api, Url.parse behindPaths.backend.apiUrl = .ok api ∧ ∀ call,
        Url.ReadsBelow ((Remote.atUrl behindPaths.backend.apiUrl 5000 .unreachable).url call) api
          call.endpoint.path.toList) ∧
      ∃ pages, Url.parse behindPaths.gateway.pagesUrl = .ok pages ∧
        Url.ReadsBelow "http://127.0.0.1:3000/app/administration/contacts" pages
          "/administration/contacts".toList := by
  have hvalid : behindPaths.validate = .ok () := ok_of_toOption (by decide +kernel)
  obtain ⟨api, pages, hapi, hpages, hcalls, hrequests⟩ := reaches_iff hvalid
  refine ⟨hvalid, ⟨api, hapi, fun call => (hcalls .unreachable call).2 (by decide +kernel)⟩,
    pages, hpages, ?_⟩
  exact (hrequests {} 0 { method := "GET", path := "/administration/contacts" } rfl
    (by decide +kernel)).2 (by decide +kernel)

/-- A configuration with a blank behind each URL, which is not read when the URL is looked at. -/
def withBlanks : Config where
  backend := { apiUrl := "http://127.0.0.1:4000 " }
  session := { secret := "s3cret" }
  gateway := { pagesUrl := "http://127.0.0.1:3000 " }

/-- With a path behind, the blank is part of the name of the server, and there is no such name. -/
theorem unreachable_after_start :
    withBlanks.validate.toOption = some () ∧
      (∀ call, (Url.parse ((Remote.atUrl withBlanks.backend.apiUrl
        withBlanks.backend.requestTimeout .unreachable).url call)).toOption = none) ∧
      Url.IsPlainPath "/_next/app.js".toList ∧
      (Url.parse (PageRequest.url { method := "GET", path := "/_next/app.js" }
        (Service.ofConfig withBlanks {} 0).forwarder.pagesUrl)).toOption = none := by
  have hcalls : ∀ endpoint : Registration.Endpoint,
      (Url.parse (Url.trimmed withBlanks.backend.apiUrl ++ endpoint.path)).toOption = none := by
    intro endpoint
    cases endpoint <;> decide +kernel
  exact ⟨by decide +kernel, fun call => hcalls call.endpoint, by decide +kernel,
    by decide +kernel⟩

end Config
end Gatehouse
