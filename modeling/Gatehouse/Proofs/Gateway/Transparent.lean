import Gatehouse.Config.Validation
import Gatehouse.Proofs.Gateway.AskedOnce
import Gatehouse.Proofs.Url.Reading

/-!
# What passes through the gateway

A request that is let through reaches the page server as the caller has sent it, and the page
reaches the caller as the page server has replied it.  Header fields pass through several filters on
the way, in either direction, and of no other name is a value lost or put in: only the connection,
the host and the identifier of the request have fields of their own on either side, and of the page
its way through the gateway.  A name and a password in the URL of the page server are put in where
the request does not say who is asking.

The query is the exception.  It is put behind the URL of the page server and the path as text, and
if there is a mark in that text the query is read as something else.

* `Service.passes_through` — what arrives on either side, and when the query does.
* `Service.Arrives.fields_of_no_login` — the fields, if there is no name and no password in the URL.
* `Service.query_swallowed` — a configuration under which the query does not arrive.
-/

set_option autoImplicit false

namespace Gatehouse
namespace Gateway
namespace Service

variable {s : Service} {fresh : RequestId} {request : Http.Incoming} {state : State}
  {id : RequestId} {target text : String} {out : Http.Outgoing} {page : Http.Reply}

/-! ## To the page server -/

/-- What a request is left with under a name before it is sent. -/
theorem getAll_filtered (request : Http.Incoming) (id : RequestId) (name : String) :
    (withoutConnectionFields ((request.headers.remove "host").insert requestIdHeader
        (Text.bytes id.render))).getAll name =
      if name = requestIdHeader then [Text.bytes id.render]
      else if name = "host" ∨ isConnectionField name = true then []
      else request.headers.getAll name := by
  rw [getAll_withoutConnectionFields]
  by_cases hid : name = requestIdHeader
  · subst hid
    have hkept : isConnectionField requestIdHeader = false := by decide
    rw [if_pos rfl, hkept, if_neg Bool.false_ne_true, Headers.getAll_insert_self]
  · rw [if_neg hid, Headers.getAll_insert_of_ne _ (Ne.symm hid)]
    by_cases hconnection : isConnectionField name = true
    · rw [if_pos hconnection, if_pos (.inr hconnection)]
    · rw [if_neg hconnection]
      by_cases hhost : name = "host"
      · subst hhost
        rw [if_pos (.inl rfl), Headers.getAll_remove_self]
      · rw [if_neg (by simp [hhost, hconnection]), Headers.getAll_remove_of_ne _ (Ne.symm hhost)]

/-- The values that the page server sees under a name. -/
theorem getAll_of_outgoing (h : s.outgoing? request id target = some out) :
    ∃ url, Url.parse (s.addressOf request target) = .ok url ∧
      ∀ name, out.headers.getAll name =
        if name = requestIdHeader then [Text.bytes id.render]
        else if name = "host" ∨ isConnectionField name = true then []
        else if name = "authorization" ∧ request.headers.getAll name = [] then
          (Http.loginFields url).getAll name
        else request.headers.getAll name := by
  obtain ⟨url, hparse, -, -, -, hheaders⟩ := of_outgoing h
  refine ⟨url, hparse, fun name => ?_⟩
  rw [hheaders, Headers.getAll_replacedBy, getAll_filtered]
  by_cases hname : name = "authorization"
  · subst hname
    have hid : ¬ "authorization" = requestIdHeader := by decide
    have hkept : ¬ ("authorization" = "host" ∨ isConnectionField "authorization" = true) := by
      decide
    rw [if_neg hid, if_neg hkept, if_neg hid, if_neg hkept]
    simp only [true_and]
  · -- under every other name a URL brings nothing
    have hno : ¬ (name = "authorization" ∧ request.headers.getAll name = []) := fun h => hname h.1
    rw [Http.getAll_loginFields_of_ne hname, if_neg hno]
    exact ite_eq_right_iff.2 Eq.symm

/-- The query that is sent holds what that of the request holds, just if the text in front lets it
through. -/
theorem pairs_of_outgoing (hclean : request.uri.IsClean)
    (h : s.outgoing? request id target = some out) :
    Url.pairs out.url.query = Url.pairs request.uri.query ↔
      Url.LetsThrough (s.forwarder.pagesUrl ++ target) request.uri.query := by
  obtain ⟨url, hparse, hurl, -⟩ := of_outgoing h
  rw [hurl, Url.asked_query]
  exact Url.pairs_eq_iff
    (fun q hq c hc => Url.isQueryPart_of_isQueryChar (hclean.query q hq c hc)) hparse

/-- What arrives at the page server: the method and the body, every header field but those of the
connection and the host, and one identifier; and of the URL that is asked for, the name and the
password in it, unless the request says who is asking.  The query arrives as well if it is let
through. -/
structure Arrives (s : Service) (request : Http.Incoming) (id : RequestId) (target : String)
    (out : Http.Outgoing) : Prop where
  method : out.method = request.method
  body : request.body = .ok out.body
  fields : ∃ url, Url.parse (s.addressOf request target) = .ok url ∧
    ∀ name, out.headers.getAll name =
      if name = requestIdHeader then [Text.bytes id.render]
      else if name = "host" ∨ isConnectionField name = true then []
      else if name = "authorization" ∧ request.headers.getAll name = [] then
        (Http.loginFields url).getAll name
      else request.headers.getAll name
  query : Url.pairs out.url.query = Url.pairs request.uri.query ↔
    Url.LetsThrough (s.forwarder.pagesUrl ++ target) request.uri.query

/-- A URL without a name and a password puts nothing in. -/
theorem Arrives.fields_of_no_login (h : s.Arrives request id target out)
    (hlogin : ∀ url, Url.parse (s.addressOf request target) = .ok url →
      url.username = "" ∧ url.password = "") (name : String) :
    out.headers.getAll name =
      if name = requestIdHeader then [Text.bytes id.render]
      else if name = "host" ∨ isConnectionField name = true then []
      else request.headers.getAll name := by
  obtain ⟨url, hparse, hfields⟩ := h.fields
  obtain ⟨husername, hpassword⟩ := hlogin url hparse
  rw [hfields, Http.loginFields_eq_empty husername hpassword]
  refine ite_congr rfl (fun _ => rfl) fun _ => ite_congr rfl (fun _ => rfl) fun _ => ?_
  refine ite_eq_right_iff.2 fun hnone => hnone.2.symm

theorem arrives_of_outgoing (hclean : request.uri.IsClean)
    (h : s.outgoing? request id target = some out) : s.Arrives request id target out := by
  obtain ⟨url, -, -, hmethod, hbody, -⟩ := of_outgoing h
  exact ⟨hmethod, hbody, getAll_of_outgoing h, pairs_of_outgoing hclean h⟩

/-! ## Back to the caller -/

/-- The names under which the gateway has something to say itself. -/
def ownNames : List String :=
  ["cache-control", requestIdHeader, servedPathHeader]

/-- What comes back to the caller: the status and the body, and every header field under a name that
is neither the connection's nor the gateway's.  Of the connection there is none. -/
structure ComesBack (reply page : Http.Reply) : Prop where
  status : reply.status = page.status
  body : reply.body = page.body
  fields : ∀ name, name ∉ ownNames → isConnectionField name = false →
    reply.headers.getAll name = page.headers.getAll name
  connection : ∀ name, isConnectionField name = true → reply.headers.getAll name = []

/-- The gateway does not speak for the connection. -/
theorem not_own_of_isConnectionField {name : String} (h : isConnectionField name = true) :
    name ∉ ownNames := by
  have hall : ∀ name ∈ ownNames, isConnectionField name = false := by decide
  intro hmem
  rw [hall name hmem] at h
  cases h

theorem comesBack_of_handsOn {reply : Http.Reply} {attached : List String}
    (h : HandsOn reply page attached) (hattached : attached ⊆ Routing.attachedNames) :
    ComesBack reply page := by
  have hfields : ∀ name, name ∉ ownNames → reply.headers.getAll name =
      if isConnectionField name then [] else page.headers.getAll name := by
    intro name hname
    simp only [ownNames, List.mem_cons, not_or] at hname
    refine h.fields name hname.2.1 hname.2.2.1 fun hmem => ?_
    have hstages := hattached hmem
    simp only [Routing.attachedNames, List.mem_cons, List.not_mem_nil, or_false] at hstages
    exact hstages.elim hname.1 hname.2.1
  refine ⟨h.status, h.body, fun name hname hkept => ?_, fun name hconnection => ?_⟩
  · rw [hfields name hname, hkept, if_neg Bool.false_ne_true]
  · rw [hfields name (not_own_of_isConnectionField hconnection), if_pos hconnection]

/-! ## Both ways -/

/-- **What is let through arrives as it was sent, on either side;** the query arrives just if there
is no mark in the text in front of it, or it is the one that is there already. -/
theorem passes_through (vitals : Vitals) (hbuilt : s.chain.IsBuilt)
    (hparsed : Http.Uri.parse text = .ok request.uri) (hendpoint : endpoint? request = none)
    (htarget : s.target? fresh request state = some target)
    (hpage : s.pageFor? fresh request state target = some page) :
    ∃ out, s.sent vitals fresh request state = [out] ∧
      s.Arrives request (idFor fresh request) target out ∧
      ComesBack (s.reply vitals fresh request state) page := by
  obtain ⟨out, hout, -⟩ := Option.bind_eq_some_iff.1 hpage
  have hasked : s.asked? fresh request state = some out := by
    rw [asked_of_app hendpoint, htarget]
    exact hout
  refine ⟨out, ?_, arrives_of_outgoing (Http.Uri.isClean_of_parse hparsed) hout, ?_⟩
  · rw [sent_of_quiet hbuilt.isQuiet, hasked]
    rfl
  · exact comesBack_of_handsOn (handsOn_of_page hendpoint htarget hpage)
      (hbuilt.names_subset _ _ _)

/-- A page server that always replies the same. -/
def replying (page : Http.Reply) : Http.Peer where
  answer _ _ := ⟨.whole page, some 0⟩

/-- A page with two cookies and a field of the connection. -/
def pageWithCookies : Http.Reply where
  status := .notFound
  headers := ((Headers.empty.append "set-cookie" (Text.bytes "a=1")).append "connection"
    (Text.bytes "close")).append "set-cookie" (Text.bytes "b=2")
  body := Text.bytes "gone"

/-- A request for an asset with a query. -/
def assetRequest : Http.Incoming where
  method := "GET"
  uri := ⟨none, none, "/_next/app.js", some "v=3"⟩
  headers := Headers.empty.append "host" (Text.bytes "portal.example")

theorem parse_assetRequest : Http.Uri.parse "/_next/app.js?v=3" = .ok assetRequest.uri :=
  ok_of_toOption (by decide +kernel)

theorem passes_through_asset :
    let s := ofConfig plainConfig { pages := replying pageWithCookies } 0
    ∃ out, s.sent {} ⟨1⟩ assetRequest {} = [out] ∧
      s.Arrives assetRequest ⟨1⟩ "/_next/app.js" out ∧
      ComesBack (s.reply {} ⟨1⟩ assetRequest {}) pageWithCookies :=
  passes_through {} (Routing.Profile.isBuilt _ _ _ _) parse_assetRequest (by decide)
    (by decide +kernel) (by decide +kernel)

-- a name and a password in the URL of the page server arrive as well
example :
    let c := { plainConfig with gateway := { pagesUrl := "http://svc:pw@127.0.0.1:3000" } }
    ((ofConfig c {} 0).sent {} ⟨1⟩ assetRequest {}).map (fun out =>
      out.headers.getAll "authorization") = [[Text.bytes "Basic c3ZjOnB3"]] := by
  decide +kernel

/-- A page server whose URL has a query of its own. -/
def tenantConfig : Config :=
  { plainConfig with gateway := { pagesUrl := "http://127.0.0.1:3000/?tenant=a" } }

/-- Behind a URL with a query, the path and the query of a request are part of a value in it. -/
theorem query_swallowed :
    let s := ofConfig tenantConfig { pages := replying pageWithCookies } 0
    tenantConfig.validate.toOption = some () ∧
      (Http.Uri.parse "/_next/app.js?v=3").toOption = some assetRequest.uri ∧
      s.pageFor? ⟨1⟩ assetRequest {} "/_next/app.js" = some pageWithCookies ∧
      Url.pairs assetRequest.uri.query = [("v", "3")] ∧
      (s.sent {} ⟨1⟩ assetRequest {}).map (fun out => Url.pairs out.url.query) =
        [[("tenant", "a/_next/app.js?v=3")]] := by
  refine ⟨?_, ?_, ?_, ?_, ?_⟩ <;> decide +kernel

end Service
end Gateway
end Gatehouse
