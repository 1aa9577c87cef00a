import Gatehouse.Proofs.Http.Fields
import Gatehouse.Proofs.Http.Following
import Gatehouse.Proofs.Http.Target
import Gatehouse.Proofs.Json.Printing
import Gatehouse.Proofs.Json.Reading
import Gatehouse.Proofs.Registration.Calls
import Gatehouse.Proofs.Text.Base64Url
import Gatehouse.Proofs.Text.Utf8
import Gatehouse.Registration.Remote

/-!
# Records over the network

A backend that is reached over the network is asked by a request that names the user in a header
field, and its reply is read from a status and a body.  So there is some way between what the server
knows and what the rules are told, and on it nothing may be lost: the user's identifier has to be a
value that a field can have, the status has to be understood, and a record that is written as an
object has to be read as the record it was.

* `Facts.ofJson?_toJson`, `Remote.facts?_render` — a record is read as it was written.
* `Remote.isValueChar_identity_iff` — an identifier can be sent just if it is free of the one
  control character that is written as it stands.
* `Remote.request_eq_ok_iff`, `Remote.exists_request_iff` — the request of a call, and when there is
  one.
* `Remote.exists_answer_eq` — an answer is made of what comes back in the end, within the time of
  one call.
* `Remote.Serves.answersFrom` — a server that has some records and is in time answers like these
  records.
-/

set_option autoImplicit false

namespace Gatehouse

/-! ## Records as texts -/

namespace Facts

theorem ofJson?_toJson (facts : Facts) : ofJson? facts.toJson = some facts := by
  rcases facts with ⟨access, operatorId, operator, legalName⟩
  cases access with
  | pending | approved | declined =>
    cases operator with
    | draft | pending | approved | declined => rfl

theorem writes_toJson (facts : Facts) :
    Json.Writes (.value facts.toJson) (Json.write facts.toJson) := by
  refine Json.writes_obj fun m hm => ?_
  simp only [List.mem_cons, List.not_mem_nil, or_false] at hm
  obtain rfl | rfl | rfl | rfl := hm
  all_goals exact Json.writes_str _

end Facts

/-! ## Texts as values of header fields -/

/-- What a character is written as inside quotes can stand in a header field, but for one control
character, which is written as it is. -/
theorem Json.isValueChar_of_mem_escapeChar {c d : Char} (hc : c ≠ '\x7f') (h : d ∈ escapeChar c) :
    Headers.isValueChar d = true := by
  have hhex : ∀ n < 16, Headers.isValueChar (hexChar n) = true := by decide
  rw [escapeChar.eq_def] at h
  split at h
  case h_8 =>
    split at h
    · next hcontrol =>
      simp only [List.mem_cons, List.not_mem_nil, or_false] at h
      obtain rfl | rfl | rfl | rfl | rfl | rfl := h
      · decide
      · decide
      · decide
      · decide
      · exact hhex _ (by omega)
      · exact hhex _ (by omega)
    · next hprintable =>
      obtain rfl := List.mem_singleton.1 h
      have hblank : ' ' ≤ d := Nat.le_of_not_lt hprintable
      simp [Headers.isValueChar, hblank, hc]
  all_goals
    simp only [List.mem_cons, List.not_mem_nil, or_false] at h
    obtain rfl | rfl := h
    all_goals decide

theorem Json.isValueChar_of_mem_quote {s : String} (hs : '\x7f' ∉ s.toList) {d : Char}
    (h : d ∈ quote s) : Headers.isValueChar d = true := by
  rw [quote, List.mem_cons, List.mem_append, List.mem_singleton, List.mem_flatMap] at h
  rcases h with rfl | ⟨c, hc, hd⟩ | rfl
  · decide
  · exact isValueChar_of_mem_escapeChar (fun heq => hs (heq ▸ hc)) hd
  · decide

/-- A name and a password become a value that a field can have, whatever they are. -/
theorem Http.isValueByte_of_mem_loginFields {url : Url} {value : List UInt8}
    (h : value ∈ (loginFields url).getAll "authorization") :
    ∀ b ∈ value, Headers.isValueByte b = true := by
  have hsymbols : ∀ v < 64,
      Headers.isValueByte (Text.Base64.symbol (Text.Base64Url.symbol v)) = true := by decide
  have hencode (bs : List UInt8) : ∀ b ∈ Text.Base64.encode bs, Headers.isValueByte b = true := by
    intro b hb
    obtain ⟨s, hs, rfl⟩ | rfl := Text.Base64.mem_encode hb
    · obtain ⟨v, hv⟩ := Option.isSome_iff_exists.1 (Text.Base64Url.isSymbol_of_mem_encode hs)
      obtain ⟨hlt, rfl⟩ := Text.Base64Url.of_value? hv
      exact hsymbols v hlt
    · decide
  rw [loginFields] at h
  split at h
  · cases h
  · obtain rfl := List.mem_singleton.1 h
    intro b hb
    rcases List.mem_append.1 hb with hb | hb
    · have hbasic : ∀ b ∈ Text.bytes "Basic ", Headers.isValueByte b = true := by
        decide +kernel
      exact hbasic b hb
    · exact hencode _ b hb

/-! ## Requests and replies -/

/-- The reply of an outcome, whether or not its body is whole. -/
def Http.Outcome.reply? : Http.Outcome → Option Http.Reply
  | .whole reply | .broken reply => some reply
  | .nothing => none

namespace Registration

variable {r : Remote} {records : Records} {e : Endpoint} {userId : String} {pace : Pace}
  {out : Http.Outgoing}

namespace Remote

/-- A record is read as it was written. -/
theorem facts?_render (facts : Facts) :
    facts? (Text.bytes facts.toJson.render) = some facts := by
  rw [facts?, Json.parseBytes_render facts.writes_toJson]
  exact facts.ofJson?_toJson

theorem toList_identity (userId : String) :
    (identity userId).toList =
      '{' :: (Json.quote "user_guid" ++ (':' :: (Json.quote userId ++ ['}']))) :=
  String.toList_ofList

/-- **An identifier can be sent** that is free of the control character. -/
theorem isValueChar_identity (h : '\x7f' ∉ userId.toList) :
    ∀ c ∈ (identity userId).toList, Headers.isValueChar c = true := by
  intro c hc
  rw [toList_identity] at hc
  simp only [List.mem_cons, List.mem_append, List.not_mem_nil, or_false] at hc
  rcases hc with rfl | hc | rfl | hc | rfl
  · decide
  · exact Json.isValueChar_of_mem_quote (by decide) hc
  · decide
  · exact Json.isValueChar_of_mem_quote h hc
  · decide

/-- **The control character is the only one that keeps an identifier from being sent.** -/
theorem isValueChar_identity_iff :
    (∀ c ∈ (identity userId).toList, Headers.isValueChar c = true) ↔ '\x7f' ∉ userId.toList := by
  refine ⟨fun h hmem => ?_, isValueChar_identity⟩
  have hquoted : '\x7f' ∈ Json.quote userId :=
    List.mem_cons_of_mem _ (List.mem_append_left _ (List.mem_flatMap.2 ⟨'\x7f', hmem, by decide⟩))
  have hlegal : Headers.isValueChar '\x7f' = true := by
    refine h _ ?_
    rw [toList_identity]
    simp [hquoted]
  cases hlegal

/-- The address of an endpoint is that of a server that can be asked. -/
def IsAskable (r : Remote) (e : Endpoint) : Prop :=
  ∃ url, Url.parse (r.apiUrl ++ e.path) = .ok url ∧ url.hasHost = true ∧
    Http.isAskable url.asked = true

/-- The header fields of the request of a call that is sent to a URL and names a user by a value. -/
def fieldsFor (url : Url) (value : List UInt8) : Headers :=
  ⟨(Http.loginFields url).fields ++
    [⟨"authorization", value⟩, ⟨"cache-control", Text.bytes "no-store"⟩,
      ⟨"accept", Text.bytes "application/json"⟩]⟩

/-- The request about a user, if there is one. -/
theorem request_eq_ok_iff :
    r.request ⟨e, userId⟩ = .ok out ↔
      '\x7f' ∉ userId.toList ∧ ∃ url, Url.parse (r.apiUrl ++ e.path) = .ok url ∧
        url.hasHost = true ∧ Http.isAskable url.asked = true ∧
        out =
          { method := "GET"
            url := url.asked
            headers := fieldsFor url (Text.bytes (identity userId)) } := by
  have hvalue := Headers.value?_bytes (identity userId)
  have hheaders (url : Url) :
      (((Http.loginFields url).append "authorization" (Text.bytes (identity userId))).append
        "cache-control" (Text.bytes "no-store")).append "accept" (Text.bytes "application/json") =
          fieldsFor url (Text.bytes (identity userId)) := by
    simp [Headers.append, fieldsFor]
  rw [← isValueChar_identity_iff, ← List.all_eq_true]
  constructor
  · intro h
    obtain ⟨bare, hbare, h⟩ := exists_of_bind_eq_ok h
    obtain ⟨url, hparsed, hhost, rfl⟩ := Http.Outgoing.to_eq_ok_iff.1 hbare
    cases hlegal : (identity userId).toList.all Headers.isValueChar with
    | false =>
      rw [hvalue, hlegal] at h
      cases h
    | true =>
      rw [hvalue, hlegal, if_pos rfl] at h
      obtain ⟨haskable, rfl⟩ := Http.Outgoing.ready_eq_ok_iff.1 h
      exact ⟨rfl, url, hparsed, hhost, haskable, by rw [hheaders]⟩
  · rintro ⟨hlegal, url, hparsed, hhost, haskable, rfl⟩
    rw [hlegal, if_pos rfl] at hvalue
    have hbare : Http.Outgoing.to "GET" (r.url ⟨e, userId⟩) =
        .ok { method := "GET", url := url.asked, headers := Http.loginFields url } :=
      Http.Outgoing.to_eq_ok_iff.2 ⟨url, hparsed, hhost, rfl⟩
    simp only [request, hbare, hvalue]
    exact Http.Outgoing.ready_eq_ok_iff.2 ⟨haskable, by rw [hheaders]⟩

/-- A call is put to the server just if there is one at the address of the backend and the
identifier can be sent. -/
theorem exists_request_iff :
    (∃ out, r.request ⟨e, userId⟩ = .ok out) ↔ r.IsAskable e ∧ '\x7f' ∉ userId.toList := by
  simp only [request_eq_ok_iff, IsAskable]
  constructor
  · rintro ⟨-, hlegal, url, hparsed, hhost, haskable, rfl⟩
    exact ⟨⟨url, hparsed, hhost, haskable⟩, hlegal⟩
  · rintro ⟨⟨url, hparsed, hhost, haskable⟩, hlegal⟩
    exact ⟨_, hlegal, url, hparsed, hhost, haskable, rfl⟩

/-- A call that cannot be put to the server fails, and nothing is sent. -/
theorem run_make_of_error {call : Call} {error : Http.ClientError}
    (h : r.request call = .error error) (sent : List Http.Outgoing) :
    (r.make call).run sent = (conclude call.endpoint (.error error, 0), sent) := by
  simp only [make, h]
  rfl

/-- A call that is put to the server is answered by what comes back in the end. -/
theorem run_make_of_request {call : Call} (h : r.request call = .ok out)
    (sent : List Http.Outgoing) :
    (r.make call).run sent =
      (conclude call.endpoint ((Http.follow r.peer out.url Http.maxHops r.timeout out).run sent).1,
        ((Http.follow r.peer out.url Http.maxHops r.timeout out).run sent).2) := by
  simp only [make, h]
  rfl

/-- An answer is made of what comes back in the end, if only of why nothing does, and that is known by
the time limit of the call. -/
theorem exists_answer_eq (r : Remote) (before : List Call) (call : Call) :
    ∃ came, came.2 ≤ r.timeout ∧ r.answer before call = conclude call.endpoint came := by
  rcases hrequest : r.request call with error | request
  · exact ⟨(.error error, 0), Nat.zero_le r.timeout, by rw [answer, run_make_of_error hrequest]⟩
  · obtain ⟨asked, came, hgoes⟩ :=
      Http.exists_goes r.peer request.url Http.maxHops r.timeout (r.sent before) request
    exact ⟨came, hgoes.time_le, by rw [answer, run_make_of_request hrequest, hgoes.run_follow]⟩

end Remote

/-! ## Servers that have some records -/

/-- What comes back from a server says about a call what some records say.  A record is sent with
the status of success and written out; for everything else the status alone counts, and the body may
be anything and may break off. -/
def Records.AreToldBy (records : Records) (call : Call) (outcome : Http.Outcome) : Prop :=
  match records.lookup call with
  | .ok (some facts) => ∃ headers,
    outcome = .whole { status := .ok, headers, body := Text.bytes facts.toJson.render }
  | .ok none => ∃ reply, outcome.reply? = some reply ∧ reply.status = .notFound
  | .error _ => ∃ reply, outcome.reply? = some reply ∧ records.failing = some reply.status.code

/-- Records that fail, if they do, with a status that is a failure and does not mean that there is
no record. -/
def Records.FailsProperly (records : Records) : Prop :=
  ∀ code ∈ records.failing, 400 ≤ code ∧ code ≤ 599 ∧ code ≠ 404

/-- The server of a backend has some records of a user: what it says about them is what they are, at
a given pace at most, and no call takes longer than one call may. -/
structure Remote.Serves (r : Remote) (records : Records) (userId : String) (pace : Pace) :
    Prop where
  url : ∀ e, r.IsAskable e
  outcome : ∀ e before out, r.request ⟨e, userId⟩ = .ok out →
    records.AreToldBy ⟨e, userId⟩ (r.peer.answer (r.sent before) out).outcome
  time : ∀ e before out, r.request ⟨e, userId⟩ = .ok out →
    ∃ time ≤ pace before ⟨e, userId⟩, time ≤ r.timeout ∧
      (r.peer.answer (r.sent before) out).after = some time

namespace Remote

/-- What a reply says is understood, and it sends nowhere. -/
theorem interpret_of_areToldBy {call : Call} {outcome : Http.Outcome}
    (h : records.AreToldBy call outcome) (hfailing : records.FailsProperly) (url : Url) :
    ∃ received, Http.Received.ofOutcome url outcome = .ok received ∧
      received.status.sendsElsewhere = false ∧
      interpret call.endpoint received = records.lookup call := by
  have hhead {reply : Http.Reply} (hreply : outcome.reply? = some reply) :
      ∃ body, Http.Received.ofOutcome url outcome = .ok ⟨reply.status, reply.headers, body⟩ := by
    cases outcome with
    | whole | broken =>
      cases hreply
      exact ⟨_, rfl⟩
    | nothing => cases hreply
  rw [Records.AreToldBy] at h
  rcases hlookup : records.lookup call with error | _ | facts
  · rw [hlookup] at h
    obtain ⟨reply, hreply, hcode⟩ := h
    obtain ⟨body, hreceived⟩ := hhead hreply
    obtain ⟨hlow, hhigh, hother⟩ := hfailing _ hcode
    refine ⟨_, hreceived, Http.Status.sendsElsewhere_of_le hlow, ?_⟩
    have hfound : reply.status ≠ .notFound := fun hstatus => hother (by rw [hstatus]; rfl)
    have hunsuccessful : reply.status.isSuccess = false := by
      rw [Http.Status.isSuccess, decide_eq_false (p := reply.status.code ≤ 299) (by omega),
        Bool.and_false]
    rw [Records.lookup, hcode] at hlookup
    rw [interpret, if_neg hfound, hunsuccessful, ← hlookup]
    rfl
  · rw [hlookup] at h
    obtain ⟨reply, hreply, hstatus⟩ := h
    obtain ⟨body, hreceived⟩ := hhead hreply
    refine ⟨_, hreceived, ?_, if_pos hstatus⟩
    rw [hstatus]
    rfl
  · rw [hlookup] at h
    obtain ⟨headers, rfl⟩ := h
    refine ⟨_, rfl, rfl, ?_⟩
    have hfound : Http.Status.ok ≠ .notFound := by decide
    have hsuccessful : Http.Status.ok.isSuccess = true := by decide
    simp only [interpret, if_neg hfound, hsuccessful, facts?_render]
    rfl

/-- **A server that has some records answers like these records,** about every user whose identifier
can be sent. -/
theorem Serves.answersFrom (h : r.Serves records userId pace) (huser : '\x7f' ∉ userId.toList)
    (hfailing : records.FailsProperly) : r.backend.AnswersFrom records userId pace := by
  intro e before
  obtain ⟨out, hout⟩ := exists_request_iff.2 ⟨h.url e, huser⟩
  obtain ⟨time, hpace, hlimit, hafter⟩ := h.time e before out hout
  obtain ⟨received, hreceived, hstays, hresult⟩ :=
    interpret_of_areToldBy (h.outcome e before out hout) hfailing out.url
  have hexchange : Http.exchange r.peer r.timeout (r.sent before) out = (.ok received, time) := by
    simp only [Http.exchange, hafter, if_pos hlimit, hreceived]
  have hanswer : r.answer before ⟨e, userId⟩ = conclude e (.ok received, time) := by
    rw [answer, run_make_of_request hout,
      Http.run_follow_of_stays hexchange (Http.sentTo?_of_stays hstays out.url)]
    rfl
  show (r.answer before ⟨e, userId⟩).result = _ ∧ _
  rw [hanswer]
  exact ⟨hresult, time, hpace, congrArg Answer.after hanswer⟩

end Remote
end Registration
end Gatehouse
