import Gatehouse.Proofs.Routing.Influence

/-!
# Requests one after the other

A chain is built once and then serves all requests, and the records at hand are shared by all of
them.  Nothing may be kept from one request for the next: a record that had been looked up for one
caller would be shown to another, or would still be believed when it has changed.

So each request is to be treated as if it were the only one, and the backend is to be asked again
each time: once for each endpoint that is needed, about the caller of that request, and only if the
rules concern the caller at all.

* `Visit`, `receiveAll` — requests, and what a chain makes of them one after the other.
* `Profile.receive_eq` — what one visit comes to does not depend on what was done before.
* `Profile.receiveAll_eq` — by induction on the visits: what becomes of all of them, and how often
  the records are looked up.
-/

set_option autoImplicit false

namespace Gatehouse
namespace Routing

open Registration (Call Endpoint Records)

variable {records : Records} {request : Request} {trace : Trace}

/-! ## Visits -/

/-- A request, when it arrives, and the identifier that it is given. -/
structure Visit where
  now : Nat
  id : RequestId
  request : Request

/-- What becomes of a visit: the answer, what has been recorded, and the calls that were made. -/
structure Reception where
  response : Response
  context : Context
  calls : List Call

/-- Receive a visit after all that is in a trace. -/
def Visit.receive (visit : Visit) (chain : Nat → Chain) (trace : Trace) : Reception × Trace :=
  let finish := (chain visit.now).finish visit.id trace visit.request
  (⟨finish.response, finish.context, finish.trace.asked.drop trace.asked.length⟩, finish.trace)

/-- Receive visits one after the other. -/
def receiveAll (chain : Nat → Chain) : List Visit → Trace → List Reception × Trace
  | [], trace => ([], trace)
  | visit :: visits, trace =>
    let received := visit.receive chain trace
    let rest := receiveAll chain visits received.2
    (received.1 :: rest.1, rest.2)

/-! ## Looking records up -/

namespace RuleCheck

variable {check : RuleCheck}

/-- The replies of records that answer without delay: there is time for all of them. -/
theorem replies_of_prompt (check : RuleCheck) (h : records.IsPrompt)
    (hbackend : check.backend = records.backend) (userId : String) (before : List Call) :
    check.replies userId before = records.replies userId check.rules.sources := by
  rw [replies, hbackend]
  refine (h.answersFrom userId).replies_eq ?_
  rw [Registration.Pace.total_zero]
  exact Nat.zero_le check.timeout

/-- The calls of a check at records that answer without delay: nothing about them depends on what
has been asked before. -/
theorem calls_of_prompt (h : records.IsPrompt) (hbackend : check.backend = records.backend)
    (request : Request) (caller : Option Claims) (before : List Call) :
    check.calls request caller before =
      match check.concerned? request caller with
      | none => []
      | some claims =>
        (records.askedAt claims.userId check.rules.sources).map fun e => ⟨e, claims.userId⟩ := by
  rw [calls]
  cases check.concerned? request caller with
  | none => rfl
  | some claims =>
    simp only [check.replies_of_prompt h hbackend, Registration.callsFor, Records.askedAt]

end RuleCheck

namespace Profile

variable {profile : Profile} {resolver : Session.Resolver}

/-- The caller about whom the rules of an application have to be checked, if they have to be. -/
def subject? (profile : Profile) (resolver : Session.Resolver) (visit : Visit) : Option Claims :=
  if (profile.gate resolver).isExempt visit.request then none
  else
    (resolver visit.now visit.request).toOption.filter fun claims =>
      claims.isIndustry && profile.rules.any fun rules =>
        rules.protects (String.ofList
          (Path.stripBase profile.basePath.toList visit.request.path.toList))

/-- The calls for a visit. -/
def calls (profile : Profile) (resolver : Session.Resolver) (records : Records) (visit : Visit) :
    List Call :=
  match profile.rules, profile.subject? resolver visit with
  | some rules, some claims =>
    (records.askedAt claims.userId rules.sources).map fun e => ⟨e, claims.userId⟩
  | _, _ => []

theorem calls_of_no_subject {visit : Visit} (h : profile.subject? resolver visit = none) :
    profile.calls resolver records visit = [] := by
  rw [calls, h]
  cases profile.rules with
  | none | some rules => rfl

/-- The calls for a known caller are those of the check. -/
theorem calls_of_known (h : records.IsPrompt) {visit : Visit} {claims : Claims}
    {rules : Rule.RuleSet} (hexempt : (profile.gate resolver).isExempt visit.request = false)
    (hclaims : resolver visit.now visit.request = .ok claims) (hrules : profile.rules = some rules)
    (before : List Call) :
    (profile.ruleCheck records.backend rules).calls visit.request (some claims) before =
      profile.calls resolver records visit := by
  have hsubject : profile.subject? resolver visit =
      (profile.ruleCheck records.backend rules).concerned? visit.request (some claims) := by
    rw [subject?, hexempt, hclaims, hrules, if_neg Bool.false_ne_true]
    rfl
  rw [RuleCheck.calls_of_prompt h rfl, calls, hrules, hsubject]
  cases (profile.ruleCheck records.backend rules).concerned? visit.request (some claims) with
  | none | some subject => rfl

/-- **What an application asks for a visit is settled by the visit,** and all of it is answered. -/
theorem views_outcome (h : records.IsPrompt) (profile : Profile) (resolver : Session.Resolver)
    (visit : Visit) (trace : Trace) :
    let after := (profile.outcome resolver records.backend visit.now visit.request trace).2
    after.asked = trace.asked ++ profile.calls resolver records visit ∧
      after.answered = trace.answered ++ profile.calls resolver records visit := by
  intro after
  have hidle (hafter : after = trace) (hsubject : profile.subject? resolver visit = none) :
      after.asked = trace.asked ++ profile.calls resolver records visit ∧
        after.answered = trace.answered ++ profile.calls resolver records visit := by
    rw [hafter, calls_of_no_subject hsubject, List.append_nil, List.append_nil]
    exact ⟨rfl, rfl⟩
  cases hexempt : (profile.gate resolver).isExempt visit.request with
  | true =>
    refine hidle ?_ ?_
    · exact congrArg Prod.snd (outcome_of_exempt hexempt)
    · rw [subject?, if_pos hexempt]
  | false =>
    cases hsession : resolver visit.now visit.request with
    | error error =>
      refine hidle ?_ ?_
      · refine (congrArg Prod.snd (outcome_of_unknown hexempt hsession)).trans ?_
        split <;> rfl
      · rw [subject?, hexempt, hsession]
        rfl
    | ok claims =>
      have hafter : after =
          (profile.verdict records.backend visit.request (some claims) trace).2 :=
        congrArg Prod.snd (outcome_of_known hexempt hsession)
      cases hrules : profile.rules with
      | none =>
        rw [verdict, hrules] at hafter
        refine hidle hafter ?_
        rw [subject?, hexempt, hsession, hrules]
        simp
      | some rules =>
        let check := profile.ruleCheck records.backend rules
        rw [verdict_of_rules hrules] at hafter
        rw [hafter, ← calls_of_known h hexempt hsession hrules trace.asked]
        refine ⟨check.asked_verdict _ _ trace, check.answered_verdict _ _ trace fun claims => ?_⟩
        rw [check.replies_of_prompt h rfl]
        exact records.silence_notMem_replies claims.userId rules.sources

/-- Whom the rules concern is the caller. -/
theorem caller_of_subject {visit : Visit} {claims : Claims}
    (h : profile.subject? resolver visit = some claims) :
    resolver visit.now visit.request = .ok claims := by
  rw [subject?] at h
  split at h
  · cases h
  · have hcaller := (Option.filter_eq_some_iff.1 h).1
    cases hsession : resolver visit.now visit.request with
    | ok found =>
      rw [hsession] at hcaller
      cases hcaller
      rfl
    | error error =>
      rw [hsession] at hcaller
      cases hcaller

/-- The backend is asked about the caller and about nobody else. -/
theorem userId_of_mem_calls {visit : Visit} {call : Call}
    (h : call ∈ profile.calls resolver records visit) :
    ∃ claims, resolver visit.now visit.request = .ok claims ∧ call.userId = claims.userId := by
  rw [calls] at h
  split at h
  · next rules claims hrules hsubject =>
    obtain ⟨e, -, rfl⟩ := List.mem_map.1 h
    exact ⟨claims, caller_of_subject hsubject, rfl⟩
  · exact absurd h List.not_mem_nil

/-! ## Visits to an application -/

/-- The stages of an application agree with themselves at two times. -/
theorem parts_agree (h : records.IsPrompt) (profile : Profile) (resolver : Session.Resolver)
    (now : Nat) (request : Request) (known : List Claims) (before before' : List Call) :
    List.Forall₂ (Part.Agree request request known before before')
      (profile.parts resolver records.backend now)
      (profile.parts resolver records.backend now) := by
  unfold parts
  refine .cons (.gate rfl) ?_
  cases profile.rules with
  | none => exact .cons .stamp .nil
  | some rules =>
    let check := profile.ruleCheck records.backend rules
    refine .cons (.ruleCheck fun claims _ made => ?_) (.cons .stamp .nil)
    rw [check.replies_of_prompt h rfl]
    exact (check.replies_of_prompt h rfl _ _).symm

/-- **A visit is received as if it were the only one.** -/
theorem receive_eq (h : records.IsPrompt) (profile : Profile) (resolver : Session.Resolver)
    (visit : Visit) (trace : Trace) :
    let chain now := profile.chain resolver records.backend now
    let received := visit.receive chain trace
    received.1 = (visit.receive chain {}).1 ∧
      received.1.calls = profile.calls resolver records visit ∧
      received.2.asked = trace.asked ++ profile.calls resolver records visit ∧
      received.2.answered = trace.answered ++ profile.calls resolver records visit := by
  intro chain received
  have hviews (t : Trace) :
      ((chain visit.now).finish visit.id t visit.request).trace.asked =
          t.asked ++ profile.calls resolver records visit ∧
        ((chain visit.now).finish visit.id t visit.request).trace.answered =
          t.answered ++ profile.calls resolver records visit := by
    obtain ⟨hasked, hanswered⟩ := views_outcome h profile resolver visit t
    have halike := (profile.yields_outcome resolver records.backend visit.now visit.request
      visit.id t).trace
    exact ⟨halike.asked.symm.trans hasked, halike.answered.symm.trans hanswered⟩
  have hcalls (t : Trace) :
      (visit.receive chain t).1.calls = profile.calls resolver records visit := by
    rw [Visit.receive, (hviews t).1, List.drop_left]
  have hfinish := Chain.finish_agree
    (parts_agree h profile resolver visit.now visit.request _ (Trace.asked {}) trace.asked)
    rfl profile.label profile.label visit.id visit.id
  have hid := Chain.requestId_finish profile.label
    (profile.parts resolver records.backend visit.now) visit.id {} visit.request
  rw [← chain_eq_ofParts] at hfinish hid
  refine ⟨?_, hcalls trace, hviews trace⟩
  have hsame : received.1.calls = (visit.receive chain {}).1.calls :=
    (hcalls trace).trans (hcalls {}).symm
  simp only [received, Visit.receive, Reception.mk.injEq] at hsame ⊢
  exact ⟨hfinish.response_eq hid, hfinish.context_eq hid, hsame⟩

/-- Visits are received one after the other as if each were the only one. -/
theorem receiveAll_of_prompt (h : records.IsPrompt) (profile : Profile)
    (resolver : Session.Resolver) (visits : List Visit) :
    ∀ trace : Trace,
      let chain now := profile.chain resolver records.backend now
      let received := receiveAll chain visits trace
      received.1 = (visits.map fun visit => (visit.receive chain {}).1) ∧
        received.2.asked = trace.asked ++ visits.flatMap (profile.calls resolver records) ∧
        received.2.answered =
          trace.answered ++ visits.flatMap (profile.calls resolver records) := by
  -- by induction on the visits; each one adds its own calls to the trace of those before
  induction visits with
  | nil =>
    intro trace chain received
    exact ⟨rfl, (List.append_nil _).symm, (List.append_nil _).symm⟩
  | cons visit visits ih =>
    intro trace chain received
    obtain ⟨hreception, -, hasked, hanswered⟩ := receive_eq h profile resolver visit trace
    obtain ⟨hrest, haskedRest, hansweredRest⟩ := ih (visit.receive chain trace).2
    refine ⟨congrArg₂ List.cons hreception hrest, haskedRest.trans ?_, hansweredRest.trans ?_⟩
    · rw [hasked, List.flatMap_cons, List.append_assoc]
    · rw [hanswered, List.flatMap_cons, List.append_assoc]

/-! ## How often records are looked up -/

/-- How often the records of a user are looked up for an application. -/
def lookups (records : Records) (userId : String) : App → Nat
  | .dashboard => 0
  | .administration => 1
  | .registration =>
    match records.lookup ⟨.current, userId⟩ with
    | .ok none => 2
    | .ok (some _) | .error _ => 1

/-- A rule set asks at one endpoint, or at the second one if there is no record at the first. -/
theorem length_askedAt {app : App} {rules : Rule.RuleSet} (h : rulesFor app = some rules)
    (records : Records) (userId : String) :
    (records.askedAt userId rules.sources).length = lookups records userId app := by
  cases app with
  | dashboard => cases h
  | administration =>
    cases h
    rcases hlookup : records.lookup ⟨.current, userId⟩ with error | _ | facts
    all_goals simp [Records.askedAt, Records.replies, Rule.operations, hlookup,
      Registration.Reply.ofResult, lookups]
  | registration =>
    cases h
    rcases hlookup : records.lookup ⟨.current, userId⟩ with error | _ | facts
    · simp [Records.askedAt, Records.replies, Rule.selectOperator, hlookup,
        Registration.Reply.ofResult, lookups]
    · rcases hpending : records.lookup ⟨.pending, userId⟩ with error | _ | facts
      all_goals simp [Records.askedAt, Records.replies, Rule.selectOperator, hlookup, hpending,
        Registration.Reply.ofResult, lookups]
    · simp [Records.askedAt, Records.replies, Rule.selectOperator, hlookup,
        Registration.Reply.ofResult, lookups]

/-- What a visit costs: nothing if the rules concern nobody. -/
def cost (profile : Profile) (resolver : Session.Resolver) (records : Records) (app : App)
    (visit : Visit) : Nat :=
  match profile.subject? resolver visit with
  | none => 0
  | some claims => lookups records claims.userId app

/-- What visits cost together. -/
def totalCost (profile : Profile) (resolver : Session.Resolver) (records : Records) (app : App) :
    List Visit → Nat
  | [] => 0
  | visit :: visits =>
    profile.cost resolver records app visit + profile.totalCost resolver records app visits

theorem length_calls {app : App} (h : profile.rules = rulesFor app) (resolver : Session.Resolver)
    (records : Records) (visit : Visit) :
    (profile.calls resolver records visit).length = profile.cost resolver records app visit := by
  rw [cost]
  cases hsubject : profile.subject? resolver visit with
  | none => rw [calls_of_no_subject hsubject, List.length_nil]
  | some claims =>
    rw [calls, hsubject, h]
    cases hrules : rulesFor app with
    | none =>
      cases app with
      | administration | registration => cases hrules
      | dashboard => rfl
    | some rules =>
      rw [List.length_map, length_askedAt hrules]

theorem length_flatMap_calls {app : App} (h : profile.rules = rulesFor app)
    (resolver : Session.Resolver) (records : Records) (visits : List Visit) :
    (visits.flatMap (profile.calls resolver records)).length =
      profile.totalCost resolver records app visits := by
  induction visits with
  | nil => rfl
  | cons visit visits ih =>
    rw [List.flatMap_cons, List.length_append, ih, length_calls h, totalCost]

/-- **Records are looked up for each visit anew.**  Whatever visits an application receives one
after the other, each comes to what it would if it were the only one; all calls for it are about its
own caller; and the records have been looked up as often as the visits cost together. -/
theorem receiveAll_eq (app : App) (profile : Profile) (resolver : Session.Resolver)
    (current pending : List (String × Facts)) (failing : Option Nat) (visits : List Visit)
    (trace : Trace) :
    let records : Records := { current, pending, failing }
    let routed : Profile := { profile with rules := rulesFor app }
    let chain now := routed.chain resolver records.backend now
    let alone (visit : Visit) := (visit.receive chain {}).1
    let received := receiveAll chain visits trace
    received.1 = visits.map alone ∧
      received.2.asked = trace.asked ++ visits.flatMap (fun visit => (alone visit).calls) ∧
      (∀ visit ∈ visits, ∀ call ∈ (alone visit).calls, ∃ claims,
        resolver visit.now visit.request = .ok claims ∧ call.userId = claims.userId) ∧
      received.2.answered.length =
        trace.answered.length + routed.totalCost resolver records app visits := by
  intro records routed chain alone received
  have hprompt : records.IsPrompt := fun e => by
    cases e with
    | current | pending => rfl
  have hcalls (visit : Visit) : (alone visit).calls = routed.calls resolver records visit :=
    (receive_eq hprompt routed resolver visit {}).2.1
  obtain ⟨hreceptions, hasked, hanswered⟩ :=
    receiveAll_of_prompt hprompt routed resolver visits trace
  refine ⟨hreceptions, ?_, fun visit _ call hcall => ?_, ?_⟩
  · simpa only [hcalls] using hasked
  · rw [hcalls] at hcall
    exact userId_of_mem_calls hcall
  · rw [hanswered, List.length_append, length_flatMap_calls rfl resolver records visits]

/-- Whoever has no record is asked about at both endpoints, and at the next visit again. -/
example :
    let visit : Visit := ⟨0, ⟨1⟩, .ofPath "/registration/select-operator" bearerField⟩
    (forApp .registration).totalCost bearerOnly {} .registration [visit, visit] = 4 := by
  decide

end Profile
end Routing
end Gatehouse
