import Gatehouse.Proofs.Registration.OverNetwork
import Gatehouse.Proofs.Routing.Influence

/-!
# Whom the backend is asked about

The backend believes what it is told: it answers about whomever the header field of a request names,
and so the field has to name the caller, whatever characters the caller's identifier is made of.
The identifier comes out of a session, and it may be any text that is not blank.  It is written
between the quotes of a JSON text, where quotes, backslashes and control characters are escaped, so
it cannot end the text or the field.  One character is neither escaped nor allowed in a field, and
with it there is no request at all.

A call comes to one request, or to several if a reply sends the client elsewhere.  All of them name
the caller, as long as they go to the server that was asked first.  From the first that goes to
another one on, none of them names anybody.  If there is a name or a password in the URL of the
backend, a value for them stands in front of the one that names the caller, and goes wherever that
goes.

* `Remote.Puts`, `Remote.PutsNothing` — what servers see of a call, and what part they have in the
  answer.
* `Remote.Identifies` — how some requests name a user.
* `Remote.asks_about_caller` — a call names the caller or nobody, and different callers are named
  differently.
-/

set_option autoImplicit false

namespace Gatehouse
namespace Registration
namespace Remote

variable {r : Remote} {e : Endpoint} {userId : String} {before : List Call} {call : Call}
  {out : Http.Outgoing} {asked : List Http.Outgoing}

/-! ## What servers see of a call -/

/-- A call puts some requests to servers.  From then on they have been sent these; the answer is
made of what the replies to them bring in the end; and whatever else servers do has no part in
it. -/
structure Puts (r : Remote) (before : List Call) (call : Call) (asked : List Http.Outgoing) :
    Prop where
  sent : r.sent (before ++ [call]) = r.sent before ++ asked
  answer : ∃ first came,
    Http.Goes r.peer first.url Http.maxHops r.timeout (r.sent before) first asked came ∧
      r.answer before call = conclude call.endpoint came
  replies : ∀ peer : Http.Peer,
    (∀ front out behind, asked = front ++ out :: behind →
      peer.answer (r.sent before ++ front) out = r.peer.answer (r.sent before ++ front) out) →
    ({ r with peer }.make call).run (r.sent before) = (r.make call).run (r.sent before)

/-- A call puts nothing to servers: they have no part in the answer, and that is a failure. -/
structure PutsNothing (r : Remote) (before : List Call) (call : Call) : Prop where
  sent : r.sent (before ++ [call]) = r.sent before
  replies : ∀ peer : Http.Peer,
    ({ r with peer }.make call).run (r.sent before) = (r.make call).run (r.sent before)
  fails : ∃ cause, (r.answer before call).result = .error (.request call.endpoint cause)

theorem sent_append (r : Remote) (before : List Call) (call : Call) :
    r.sent (before ++ [call]) = ((r.make call).run (r.sent before)).2 :=
  List.foldl_append

theorem exists_puts_of_request (h : r.request call = .ok out) (before : List Call) :
    ∃ asked came,
      Http.Goes r.peer out.url Http.maxHops r.timeout (r.sent before) out asked came ∧
        r.Puts before call asked := by
  obtain ⟨asked, came, hgoes⟩ :=
    Http.exists_goes r.peer out.url Http.maxHops r.timeout (r.sent before) out
  refine ⟨asked, came, hgoes, ?_, ⟨out, came, hgoes, ?_⟩, fun peer hsame => ?_⟩
  · rw [sent_append, run_make_of_request h, hgoes.run_follow]
  · rw [answer, run_make_of_request h, hgoes.run_follow]
  · have hrequest : { r with peer }.request call = .ok out := h
    rw [run_make_of_request h, run_make_of_request hrequest, hgoes.run_follow,
      (hgoes.of_same_replies hsame).run_follow]

theorem putsNothing_of_request {error : Http.ClientError} (h : r.request call = .error error)
    (before : List Call) : r.PutsNothing before call where
  sent := by rw [sent_append, run_make_of_error h]
  replies peer := by
    have hrequest : { r with peer }.request call = .error error := h
    rw [run_make_of_error h, run_make_of_error hrequest]
  fails := ⟨error.message, by rw [answer, run_make_of_error h]; rfl⟩

/-- What a call puts to servers begins with its request. -/
theorem Puts.exists_request (h : r.Puts before call asked) :
    ∃ out came, r.request call = .ok out ∧
      Http.Goes r.peer out.url Http.maxHops r.timeout (r.sent before) out asked came := by
  cases hrequest : r.request call with
  | error error =>
    obtain ⟨first, came, hgoes, -⟩ := h.answer
    obtain ⟨rest, rfl⟩ := hgoes.exists_cons
    have hnothing := (putsNothing_of_request hrequest before).sent
    rw [h.sent, List.append_right_eq_self] at hnothing
    cases hnothing
  | ok out =>
    obtain ⟨asked', came, hgoes, hputs⟩ := exists_puts_of_request hrequest before
    obtain rfl := List.append_cancel_left (h.sent.symm.trans hputs.sent)
    exact ⟨out, came, rfl, hgoes⟩

/-- A call about a user puts something to servers just if the backend has the address of one and the
user can be named. -/
theorem exists_puts_iff (before : List Call) :
    (∃ asked, r.Puts before ⟨e, userId⟩ asked) ↔ r.IsAskable e ∧ '\x7f' ∉ userId.toList := by
  rw [← exists_request_iff]
  constructor
  · rintro ⟨asked, hputs⟩
    obtain ⟨out, -, hout, -⟩ := hputs.exists_request
    exact ⟨out, hout⟩
  · rintro ⟨out, hout⟩
    obtain ⟨asked, -, -, hputs⟩ := exists_puts_of_request hout before
    exact ⟨asked, hputs⟩

/-! ## Who is named -/

/-- A value names a user: it may stand in a header field, and it is read as an object with the
user's identifier as its only member. -/
structure Names (value : List UInt8) (userId : String) : Prop where
  legal : ∀ b ∈ value, Headers.isValueByte b = true
  read : Json.parseBytes value = some (Json.obj [("user_guid", Json.str userId)])

/-- A value names one user at most. -/
theorem Names.unique {value : List UInt8} {userId' : String} (h : Names value userId)
    (h' : Names value userId') : userId = userId' := by
  have hread := h.read.symm.trans h'.read
  simpa [Json.obj, Json.str] using hread

theorem names_identity (h : '\x7f' ∉ userId.toList) :
    Names (Text.bytes (identity userId)) userId where
  legal := by
    have hbytes := Headers.value?_bytes_of_forall (isValueChar_identity h)
    rw [Headers.value?, Option.ite_none_right_eq_some] at hbytes
    exact List.all_eq_true.1 hbytes.1
  read := by
    refine Json.parseBytes_render (Json.writes_obj fun m hm => ?_)
    obtain rfl := List.mem_singleton.1 hm
    exact Json.writes_str userId

/-- The values that tell a server who is asking: the one for the name and the password in a URL, if
there are any, and one that names a user. -/
def valuesFor (url : Url) (value : List UInt8) : List (List UInt8) :=
  (Http.loginFields url).getAll "authorization" ++ [value]

/-- Some requests name a user by a value.  The first is for a URL and has the header fields of a
call; the others have fields of no other name, but for the one that says where they come from.  All
of them have the values that tell who is asking, as long as no other server has been asked, and none
from then on.  There is but one value if the URL has no name and no password. -/
structure Identifies (url : Url) (userId : String) (value : List UInt8)
    (asked : List Http.Outgoing) : Prop where
  names : Names value userId
  first : asked.head? =
    some { method := "GET", url := url.asked, headers := fieldsFor url value }
  all : ∀ out ∈ asked, out.method = "GET" ∧ out.body = [] ∧
    out.headers.names ⊆ ["authorization", "cache-control", "accept", "referer"]
  authorization : ∀ front out behind, asked = front ++ out :: behind →
    out.headers.getAll "authorization" =
      if ∀ o ∈ front ++ [out], o.url.server = url.asked.server then valuesFor url value else []
  alone : url.username = "" → url.password = "" → valuesFor url value = [value]
  legal : ∀ other ∈ valuesFor url value, ∀ b ∈ other, Headers.isValueByte b = true

theorem getAll_fieldsFor (url : Url) (value : List UInt8) :
    (fieldsFor url value).getAll "authorization" = valuesFor url value := by
  rw [fieldsFor, Headers.getAll, List.filterMap_append]
  rfl

theorem mem_names_fieldsFor {url : Url} {value : List UInt8} {name : String}
    (h : name ∈ (fieldsFor url value).names) :
    name ∈ ["authorization", "cache-control", "accept"] := by
  rw [fieldsFor, Headers.names, List.map_append] at h
  rcases List.mem_append.1 h with h | h
  · exact List.mem_cons.2 (Or.inl (Headers.eq_of_mem_loginFields h))
  · exact h

/-- The requests that a call about a user comes to name that user. -/
theorem identifies_of_goes {came : Except Http.ClientError Http.Received × Nat} {start : Url}
    {hops : Nat} (h : r.request ⟨e, userId⟩ = .ok out)
    (hgoes : Http.Goes r.peer start hops r.timeout (r.sent before) out asked came) :
    ∃ url, Url.parse (r.apiUrl ++ e.path) = .ok url ∧
      Identifies url userId (Text.bytes (identity userId)) asked := by
  obtain ⟨hlegal, url, hparsed, -, -, rfl⟩ := request_eq_ok_iff.1 h
  have hnames := names_identity hlegal
  refine ⟨url, hparsed, hnames, ?_, ?_, fun front o behind hasked => ?_,
    fun hname hpassword => ?_, fun other hother => ?_⟩
  · obtain ⟨rest, rfl⟩ := hgoes.exists_cons
    rfl
  · refine hgoes.forall_mem ⟨rfl, rfl, fun name hname => ?_⟩ fun o next ho => ?_
    · exact List.mem_append_left ["referer"] (mem_names_fieldsFor hname)
    · obtain ⟨hmethod, hbody, hsubset⟩ := ho
      refine ⟨hmethod, hbody, fun name hname => ?_⟩
      obtain rfl | hname := Http.mem_names_onward hname
      · decide
      · exact hsubset hname
  · rw [hgoes.personal (by decide) hasked, ← getAll_fieldsFor]
  · rw [valuesFor, Http.loginFields_eq_empty hname hpassword]
    rfl
  · rcases List.mem_append.1 hother with hlogin | hidentity
    · exact Http.isValueByte_of_mem_loginFields hlogin
    · rw [List.mem_singleton.1 hidentity]
      exact hnames.legal

/-- The last value of a request that tells who is asking is the one that names the user. -/
theorem Identifies.eq_of_getLast? {url : Url} {value last : List UInt8}
    (h : Identifies url userId value asked) (hout : out ∈ asked)
    (hlast : (out.headers.getAll "authorization").getLast? = some last) : last = value := by
  obtain ⟨front, behind, hasked⟩ := List.append_of_mem hout
  rw [h.authorization front out behind hasked] at hlast
  split at hlast
  · rw [valuesFor, List.getLast?_concat] at hlast
    exact (Option.some.inj hlast).symm
  · cases hlast

/-- A call about a user names that user or puts nothing to servers. -/
theorem putsNothing_or_puts (r : Remote) (before : List Call) (e : Endpoint) (userId : String) :
    r.PutsNothing before ⟨e, userId⟩ ∨
      ∃ url value asked, Url.parse (r.apiUrl ++ e.path) = .ok url ∧
        r.Puts before ⟨e, userId⟩ asked ∧ Identifies url userId value asked := by
  cases hrequest : r.request ⟨e, userId⟩ with
  | error error => exact .inl (putsNothing_of_request hrequest before)
  | ok out =>
    obtain ⟨asked, came, hgoes, hputs⟩ := exists_puts_of_request hrequest before
    obtain ⟨url, hparsed, hidentifies⟩ := identifies_of_goes hrequest hgoes
    exact .inr ⟨url, _, asked, hparsed, hputs, hidentifies⟩

/-- A user is named by the last value of any request that tells who is asking. -/
theorem Puts.names_of_getLast? {last : List UInt8} (h : r.Puts before ⟨e, userId⟩ asked)
    (hout : out ∈ asked)
    (hlast : (out.headers.getAll "authorization").getLast? = some last) : Names last userId := by
  obtain ⟨first, came, hrequest, hgoes⟩ := h.exists_request
  obtain ⟨url, -, hidentifies⟩ := identifies_of_goes hrequest hgoes
  rw [hidentifies.eq_of_getLast? hout hlast]
  exact hidentifies.names

end Remote
end Registration

namespace Routing

/-- The check of an application's rules makes calls about the caller only. -/
theorem Profile.asked_start {resolver : Session.Resolver} {now : Nat} {request : Request}
    {claims : Claims} (hclaims : resolver now request = .ok claims) (profile : Profile)
    (backend : Registration.Backend) (id : RequestId) (trace : Trace) :
    ∃ calls, ((profile.chain resolver backend now).start id trace request).2.trace.asked =
        trace.asked ++ calls ∧
      ∀ call ∈ calls, call.userId = claims.userId := by
  have halike := (profile.yields_outcome resolver backend now request id trace).trace
  rw [Chain.start, ← halike.asked]
  have hnone : ∃ calls, trace.asked = trace.asked ++ calls ∧
      ∀ call ∈ calls, call.userId = claims.userId :=
    ⟨[], (List.append_nil _).symm, fun _ h => absurd h List.not_mem_nil⟩
  cases hexempt : (profile.gate resolver).isExempt request with
  | true => rwa [outcome_of_exempt hexempt]
  | false =>
    rw [outcome_of_known hexempt hclaims]
    cases hrules : profile.rules with
    | none => rwa [verdict, hrules]
    | some rules =>
      rw [verdict_of_rules hrules, RuleCheck.asked_verdict]
      refine ⟨_, rfl, fun call hcall => ?_⟩
      rw [RuleCheck.calls] at hcall
      split at hcall
      · exact absurd hcall List.not_mem_nil
      · next claims' hconcerned =>
        obtain ⟨e, -, rfl⟩ := List.mem_map.1 hcall
        obtain rfl := Option.some.inj (RuleCheck.eq_some_of_concerned hconcerned)
        rfl

end Routing

namespace Registration
namespace Remote

/-- A backend whose server sends a caller on to another path, and from there to another server. -/
def wandering : Remote where
  apiUrl := "http://backend:8000/api"
  timeout := 100
  peer :=
    { answer := fun before _ =>
        let sending (location : String) : Http.Outcome :=
          .whole
            { status := ⟨307⟩, headers := Headers.empty.append "location" (Text.bytes location) }
        match before.length with
        | 0 => { outcome := sending "../v2" }
        | 1 => { outcome := sending "//mirror/v2" }
        | _ => { outcome := .whole { status := .notFound } } }

/-- A caller whose identifier has characters with a meaning in a text of JSON or in a header
field. -/
def oddCaller : Claims where
  role := .industryUser
  userId := "é\"\\\u0001\r\n,"
  userId_visible := by decide

/-- The value by which that caller is named. -/
def oddName : List UInt8 :=
  Text.bytes "\x7b\"user_guid\":\"é\\\"\\\\\\u0001\\r\\n,\"\x7d"

/-- The URLs that are asked for about that caller, and the values that tell who is asking. -/
def oddTrail : List (String × List (List UInt8)) :=
  [("http://backend:8000/api/registration/user-operators/current", [oddName]),
    ("http://backend:8000/api/registration/v2", [oddName]),
    ("http://mirror/v2", [])]

-- a name and a password in the URL of the backend are told to its server before the caller is named
example :
    let r := { wandering with apiUrl := "http://svc:pw@backend:8000/api" }
    (r.request ⟨.current, oddCaller.userId⟩).toOption.map (fun out =>
      out.headers.getAll "authorization") = some [Text.bytes "Basic c3ZjOnB3", oddName] := by
  decide +kernel

end Remote
end Registration
end Gatehouse
