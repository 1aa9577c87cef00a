import Gatehouse.Proofs.Registration.OverNetwork
import Gatehouse.Proofs.Routing.Influence

/-!
# The same records from two backends

Records can be kept at hand, for tests and for running the gateway alone, or be had from a server.
What is found out with the one is to hold for the other, so the two have to lead to the same
decisions by way of the same calls, if the server has the records and is in time.

Both backends answer from the same records (`Backend.AnswersFrom`), so a check of the rules gets the
same replies from both, and what has an influence on a chain is the same for both.

* `Part.over` — a stage with another backend.
* `Part.agree_over` — stages over two backends that answer from the same records agree.
* `Chain.start_over_remote` — a chain over records at hand comes to the same as over a server that
  has these records.
-/

set_option autoImplicit false

namespace Gatehouse
namespace Routing

open Registration (Backend Call Pace Records Remote)

variable {request : Request} {parts : List Part} {records : Records}

/-- A stage that asks another backend, if it asks one. -/
def Part.over (backend : Backend) : Part → Part
  | .gate settings now => .gate settings now
  | .ruleCheck settings => .ruleCheck { settings with backend }
  | .stamp => .stamp

/-- Whom the gates find has nothing to do with the backend. -/
theorem callers_over (backend : Backend) (request : Request) (parts : List Part) :
    callers request (parts.map (Part.over backend)) = callers request parts := by
  rw [callers, callers, List.filterMap_map]
  refine List.filterMap_congr fun part _ => ?_
  cases part with
  | gate | ruleCheck | stamp => rfl

/-- There is time for the calls that a stage makes about a user. -/
def Part.HasTime (records : Records) (pace : Pace) (userId : String) : Part → Prop
  | .ruleCheck settings =>
    ∀ before, pace.total userId before (records.askedAt userId settings.rules.sources) ≤
      settings.timeout
  | .gate _ _ | .stamp => True

/-- **Stages over two backends agree if both answer from the same records, and in time.** -/
theorem Part.agree_over {backend backend' : Backend} {pace pace' : Pace} {known : List Claims}
    {before before' : List Call} {part : Part}
    (h : ∀ claims ∈ known, backend.AnswersFrom records claims.userId pace ∧
      part.HasTime records pace claims.userId)
    (h' : ∀ claims ∈ known, backend'.AnswersFrom records claims.userId pace' ∧
      part.HasTime records pace' claims.userId) :
    Part.Agree request request known before before' (part.over backend) (part.over backend') := by
  cases part with
  | gate settings now => exact .gate rfl
  | ruleCheck settings =>
    refine .ruleCheck fun claims hclaims made => ?_
    obtain ⟨hanswers, htime⟩ := h claims hclaims
    obtain ⟨hanswers', htime'⟩ := h' claims hclaims
    exact (hanswers.replies_eq (htime _)).trans (hanswers'.replies_eq (htime' _)).symm
  | stamp => exact .stamp

/-- For records at hand there is always time. -/
theorem Part.hasTime_of_prompt (records : Records) (userId : String) (part : Part) :
    part.HasTime records (fun _ _ => 0) userId := by
  cases part with
  | gate settings now => trivial
  | ruleCheck settings =>
    intro before
    rw [Pace.total_zero]
    exact Nat.zero_le settings.timeout
  | stamp => trivial

namespace Chain

/-- **It makes no difference to a chain whether records are at hand or had from a server** that has
them and is in time, if the identifiers of the callers can be sent and a failure is no other answer:
both come to the same response and record the same, and the same calls are made. -/
theorem start_over_remote {current pending : List (String × Facts)} {failing : Option Nat}
    {remote : Remote} {pace : Pace}
    (hfailing : Records.FailsProperly { current, pending, failing })
    (hsent : ∀ claims ∈ callers request parts, '\x7f' ∉ claims.userId.toList)
    (hserver : ∀ claims ∈ callers request parts,
      remote.Serves { current, pending, failing } claims.userId pace)
    (htime : ∀ claims ∈ callers request parts, ∀ part ∈ parts,
      part.HasTime { current, pending, failing } pace claims.userId)
    (label : String) (id : RequestId) (trace : Trace) :
    let records : Records := { current, pending, failing }
    let first := (ofParts label (parts.map (Part.over records.backend))).start id trace request
    let second := (ofParts label (parts.map (Part.over remote.backend))).start id trace request
    second.1 = first.1 ∧ second.2.context = first.2.context ∧
      second.2.trace.asked = first.2.trace.asked := by
  intro records first second
  have hprompt : records.IsPrompt := fun e => by
    cases e with
    | current | pending => rfl
  have hparts : List.Forall₂
      (Part.Agree request request (callers request (parts.map (Part.over records.backend)))
        trace.asked trace.asked)
      (parts.map (Part.over records.backend)) (parts.map (Part.over remote.backend)) := by
    rw [callers_over, List.forall₂_map_left_iff, List.forall₂_map_right_iff, List.forall₂_same]
    intro part hpart
    exact Part.agree_over
      (fun claims _ => ⟨hprompt.answersFrom claims.userId, part.hasTime_of_prompt records _⟩)
      fun claims hclaims =>
        ⟨(hserver claims hclaims).answersFrom (hsent claims hclaims) hfailing,
          htime claims hclaims part hpart⟩
  have hfinish := finish_agree hparts rfl label label id id
  have hid := requestId_finish label (parts.map (Part.over records.backend)) id trace request
  obtain ⟨calls, hasked, hasked'⟩ := hfinish.asked
  exact ⟨hfinish.response_eq hid, hfinish.context_eq hid, hasked'.trans hasked.symm⟩

/-- The record of an operator that has yet to let a user in. -/
def waiting : Facts := ⟨.pending, "7", .approved, "Acme"⟩

/-- A server that has one pending record, and no others. -/
def waitingRoom : Remote where
  apiUrl := "http://backend:8000/api"
  timeout := 100
  peer :=
    { answer := fun _ out =>
        { outcome :=
            if out.url.render = "http://backend:8000/api/registration/user-operators/pending" then
              .whole { status := .ok, body := Text.bytes waiting.toJson.render }
            else .broken { status := .notFound }
          after := some 3 } }

theorem serves_waitingRoom :
    waitingRoom.Serves { pending := [("u", waiting)] } "u" fun _ _ => 3 := by
  have hrequest (e : Registration.Endpoint) :
      (waitingRoom.request ⟨e, "u"⟩).toOption.map (fun out => out.url.render) =
        some ("http://backend:8000/api" ++ e.path) := by
    cases e with
    | current | pending => decide +kernel
  exact {
    url := fun e => by
      have he := hrequest e
      cases hout : waitingRoom.request ⟨e, "u"⟩ with
      | ok out => exact (Remote.exists_request_iff.1 ⟨out, hout⟩).1
      | error error =>
        rw [hout] at he
        cases he
    outcome := fun e before out hout => by
      have he := hrequest e
      rw [hout] at he
      have hrender : out.url.render = "http://backend:8000/api" ++ e.path := Option.some.inj he
      cases e with
      | current =>
        refine ⟨{ status := .notFound }, ?_, rfl⟩
        simp only [waitingRoom, hrender]
        rfl
      | pending =>
        refine ⟨{}, ?_⟩
        simp only [waitingRoom, hrender]
        rfl
    time := fun e before out _ => ⟨3, Nat.le_refl 3, by decide, rfl⟩ }

/-- Whoever waits to be let in is told so, whichever backend knows it. -/
theorem start_over_remote_waitingRoom :
    let records : Records := { pending := [("u", waiting)] }
    let parts := (Profile.forApp .registration).parts Profile.bearerOnly (Records.backend {}) 0
    let request := Request.ofPath "/registration/select-operator" Profile.bearerField
    let first :=
      (ofParts "registration" (parts.map (Part.over records.backend))).start ⟨1⟩ {} request
    let second :=
      (ofParts "registration" (parts.map (Part.over waitingRoom.backend))).start ⟨1⟩ {} request
    first.1.decision = .redirect
        "/registration/select-operator/received/request-access/7?title=Acme" .temporaryRedirect ∧
      second.1.decision = first.1.decision ∧ second.2.trace.asked = first.2.trace.asked := by
  intro records parts request
  have hcallers : callers request parts = [Profile.industryUser] := Profile.callers_parts _ _ _ _ _
  have hcaller : ∀ claims ∈ callers request parts, claims = Profile.industryUser := by
    rw [hcallers]
    exact fun claims hclaims => List.mem_singleton.1 hclaims
  have hfailing : Records.FailsProperly { pending := [("u", waiting)] } :=
    fun code hcode => by cases hcode
  have hsent : ∀ claims ∈ callers request parts, '\x7f' ∉ claims.userId.toList := by
    intro claims hclaims
    rw [hcaller claims hclaims]
    decide
  have hserver : ∀ claims ∈ callers request parts,
      waitingRoom.Serves records claims.userId fun _ _ => 3 := by
    intro claims hclaims
    rw [hcaller claims hclaims]
    exact serves_waitingRoom
  have htime : ∀ claims ∈ callers request parts, ∀ part ∈ parts,
      part.HasTime records (fun _ _ => 3) claims.userId := by
    intro claims hclaims part hpart
    rw [hcaller claims hclaims]
    simp only [parts, Profile.parts, Profile.forApp, Profile.rulesFor, Option.map_some,
      List.mem_cons, Option.toList_some, List.cons_append, List.nil_append, List.not_mem_nil,
      or_false] at hpart
    obtain rfl | rfl | rfl := hpart
    · trivial
    · -- the pending record is asked for in the second call
      exact fun before => show 3 + (3 + 0) ≤ 8000 by decide
    · trivial
  obtain ⟨hresponse, -, hasked⟩ :=
    start_over_remote hfailing hsent hserver htime "registration" ⟨1⟩ {}
  exact ⟨by decide +kernel, congrArg Response.decision hresponse, hasked⟩

end Chain
end Routing
end Gatehouse
