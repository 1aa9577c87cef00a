import Gatehouse.Proofs.Registration.OverNetwork
import Gatehouse.Proofs.Routing.Visits
import Gatehouse.Proofs.Telemetry.Counting

/-!
# Every request is counted once

A run is measured in three places: when it enters the chain and when it leaves, when it has been
decided, and when its rules could not be evaluated.  Whoever reads the published numbers relies on
it that none of these is passed by and none is met twice, whichever way a request takes through the
stages.

So it is said what one run adds to the measurements (`Arrival.run_counts`).  The stages come in by
one lemma each: the gate and the stamp measure nothing, and the check of the rules measures that the
records could not be had just if it goes on to send the caller away for that.  The backend measures
its own fetches, and it must not measure anything else (`Backend.OnlyFetches`).

* `Arrival`, `routeAll` — requests for any applications, one after the other, and what is reported
  of them.
* `Arrival.lacksRecords` — whether the records that a run needs cannot be had, from the replies of
  its backend.
* `routeAll_counts` — by induction on the requests, what all of them add to the measurements.
* `metrics_conserve_requests` — what a registry shows then.
-/

set_option autoImplicit false

namespace Gatehouse

open Registration (Backend Call Endpoint Reply)

/-! ## Backends and what they measure -/

namespace Registration

variable {backend : Backend} {userId : String}

/-- A backend measures nothing but fetches. -/
def Backend.OnlyFetches (backend : Backend) : Prop :=
  ∀ before call, ∀ e ∈ (backend.answer before call).events, ∀ m, e = .measured m → m.isFetch = true

theorem Records.onlyFetches (records : Records) : records.backend.OnlyFetches := by
  intro before call e he
  exact absurd he List.not_mem_nil

theorem Remote.onlyFetches (r : Remote) : r.backend.OnlyFetches := by
  intro before call
  obtain ⟨⟨result, time⟩, -, hanswer⟩ := r.exists_answer_eq before call
  have hmeasured (result : Result) (m : Measurement)
      (heq : Event.measured m = measured call.endpoint result time) : m.isFetch = true := by
    cases heq
    rfl
  show ∀ e ∈ (r.answer before call).events, ∀ m, e = .measured m → m.isFetch = true
  rw [hanswer]
  rintro _ he m rfl
  cases result with
  | error error => exact hmeasured _ m (List.mem_singleton.1 he)
  | ok received =>
    rcases List.mem_cons.1 he with hline | he
    · cases hline
    · exact hmeasured _ m (List.mem_singleton.1 he)

theorem Backend.OnlyFetches.counted_answered (h : backend.OnlyFetches) (before : List Call)
    (call : Call) :
    Trace.counted ⟨.asked call :: .answered call :: (backend.answer before call).events⟩ = [] := by
  refine List.filter_eq_nil_iff.2 fun m hm => ?_
  obtain ⟨e, he, hview⟩ := List.mem_filterMap.1 hm
  have hevent : e = .measured m := by
    cases e with
    | measured n => exact congrArg Event.measured (Option.some.inj hview)
    | logged | asked | answered | forwarded => cases hview
  subst hevent
  have hanswer : Event.measured m ∈ (backend.answer before call).events := by simpa using he
  simp [h before call _ hanswer m rfl]

/-- A fetch measures nothing but what its backend does. -/
theorem Backend.OnlyFetches.counts_fetch (h : backend.OnlyFetches) (userId : String)
    (sources : List Endpoint) : ∀ (budget : Budget) (t : Trace),
      t.Counts ((fetch backend userId sources budget).run t).2 [] := by
  induction sources with
  | nil => exact fun budget t => Trace.Counts.refl t
  | cons e sources ih =>
    intro budget t
    have hanswered := Trace.Counts.append t
      (.asked ⟨e, userId⟩ :: .answered ⟨e, userId⟩ :: (backend.answer t.asked ⟨e, userId⟩).events)
    rw [h.counted_answered] at hanswered
    simp only [fetch, StateT.run_bind, run_ask]
    cases (backend.answer t.asked ⟨e, userId⟩).after.bind budget.spend? with
    | none => exact Trace.Counts.append t [.asked ⟨e, userId⟩]
    | some rest =>
      rcases (backend.answer t.asked ⟨e, userId⟩).result with error | _ | facts
      · exact hanswered
      · exact hanswered.trans (ih rest _)
      · exact hanswered

/-- Whether a reply leaves the records out. -/
def Reply.isMissing : Reply → Bool
  | .failure _ | .silence => true
  | .record _ | .noRecord => false

theorem any_isMissing_replies (backend : Backend) (userId : String) (error : BackendError)
    (sources : List Endpoint) : ∀ (before : List Call) (limit : Nat),
      (backend.replies userId sources before limit).any Reply.isMissing =
        !((Reply.settle (backend.replies userId sources before limit)).getD
          (.error error)).toBool := by
  induction sources with
  | nil => exact fun before limit => rfl
  | cons e sources ih =>
    intro before limit
    by_cases hnone : (backend.answer before ⟨e, userId⟩).reply limit = .noRecord
    · rw [Backend.replies_of_noRecord hnone, Reply.settle_cons_noRecord, List.any_cons, ih]
      rfl
    · rw [Backend.replies_of_settled hnone]
      cases (backend.answer before ⟨e, userId⟩).reply limit <;> rfl

end Registration

namespace Routing

/-! ## The stages -/

namespace RuleCheck

variable {check : RuleCheck} {request : Request} {caller : Option Claims}

/-- Whether the records are needed for a request and cannot be had. -/
def lacksRecords (check : RuleCheck) (request : Request) (caller : Option Claims)
    (before : List Call) :
    Bool :=
  match check.concerned? request caller with
  | none => false
  | some claims => (check.replies claims.userId before).any Reply.isMissing

theorem toBool_facts (check : RuleCheck) (userId : String) (t : Trace) :
    ((check.facts userId).run t).1.toBool =
      !(check.replies userId t.asked).any Reply.isMissing := by
  obtain ⟨events, hrun, -, -⟩ := check.run_facts userId t
  rw [hrun, replies, Registration.any_isMissing_replies _ _ (.timeout check.timeout), Bool.not_not]
  rfl

theorem alarms_eq (check : RuleCheck) (result : Registration.Result) :
    check.alarms result =
      if result.toBool then [] else [.failSafe check.app "backend_unavailable"] := by
  cases result with
  | ok | error => rfl

/-- What the check measures, from the replies. -/
theorem measures_eq (check : RuleCheck) (request : Request) (caller : Option Claims) (t : Trace) :
    check.measures request caller t =
      if check.lacksRecords request caller t.asked then [.failSafe check.app "backend_unavailable"]
      else [] := by
  rw [measures, lacksRecords]
  cases check.concerned? request caller with
  | none => rfl
  | some claims =>
    dsimp only
    rw [alarms_eq, toBool_facts]
    by_cases hmissing : (check.replies claims.userId t.asked).any Reply.isMissing = true
    · simp [hmissing]
    · simp [hmissing]

/-- A check that lacks the records sends the caller to the root of the application. -/
theorem sent_of_lacksRecords {t : Trace} (h : check.lacksRecords request caller t.asked = true) :
    (check.verdict request caller t).1 = some check.appRoot := by
  rw [lacksRecords] at h
  cases hconcerned : check.concerned? request caller with
  | none =>
    rw [hconcerned] at h
    cases h
  | some claims =>
    have hmissing := check.toBool_facts claims.userId t
    simp only [hconcerned] at h
    rw [h] at hmissing
    rw [verdict_of_concerned hconcerned]
    rcases hfacts : ((check.facts claims.userId).run t).1 with error | facts
    · rfl
    · rw [hfacts] at hmissing
      cases hmissing

theorem counts_facts (h : check.backend.OnlyFetches) (userId : String) (t : Trace) :
    t.Counts ((check.facts userId).run t).2 [] := by
  have hfetch := h.counts_fetch userId check.rules.sources (some check.timeout) t
  simp only [facts, StateT.run_bind]
  rcases hrun : (Registration.fetch check.backend userId check.rules.sources
    (some check.timeout)).run t with ⟨_ | result, after⟩
  all_goals
    rw [hrun] at hfetch
    exact hfetch

theorem counts_verdict (h : check.backend.OnlyFetches) (request : Request) (caller : Option Claims)
    (t : Trace) : t.Counts (check.verdict request caller t).2 [] := by
  cases hconcerned : check.concerned? request caller with
  | none =>
    rw [verdict_of_unconcerned hconcerned]
    exact Trace.Counts.refl t
  | some claims =>
    rw [verdict_of_concerned hconcerned]
    exact counts_facts h claims.userId t

theorem isFetch_of_mem_measures {t : Trace} {m : Measurement}
    (hm : m ∈ check.measures request caller t) :
    m.isFetch = false := by
  rw [measures_eq] at hm
  split at hm
  · rw [List.mem_singleton.1 hm]
    rfl
  · cases hm

end RuleCheck

namespace Profile

variable {profile : Profile} {resolver : Session.Resolver} {backend : Backend} {request : Request}
  {run : Run}

/-- What the stages after the gate measure. -/
def measures (profile : Profile) (backend : Backend) (request : Request) (caller : Option Claims)
    (trace : Trace) : List Measurement :=
  match profile.rules with
  | none => []
  | some rules => (profile.ruleCheck backend rules).measures request caller trace

/-- Nothing is added to a trace behind the check of the rules. -/
theorem trace_stamp (request : Request) (run : Run) :
    ((Stamp.stage.before request serveOrPass).run run).2.trace = run.trace := by
  rw [run_before, Stamp.run_process, run_serveOrPass]

/-- After the gate the rules are checked, and then it is remarked whether the records can be had. -/
theorem trace_afterGate (profile : Profile) (backend : Backend) (request : Request) (run : Run) :
    (profile.verdict backend request run.context.claims run.trace).2.Remarked
      ((profile.afterGate backend request).run run).2.trace
      (profile.measures backend request run.context.claims run.trace) := by
  unfold afterGate verdict measures
  cases profile.rules with
  | none =>
    show run.trace.Remarked ((Stamp.stage.before request serveOrPass).run run).2.trace []
    rw [trace_stamp]
    exact Trace.Remarked.refl run.trace
  | some rules =>
    let check := profile.ruleCheck backend rules
    obtain ⟨after, hremarked, hrun⟩ := check.run_process_remarked request
      { run with context := run.context.enter check.stage.name }
    have htrace (context : Context) (sent : Option String) (r : Run) :
        ((Move.sendOr context sent).carryOut (Stamp.stage.before request serveOrPass) r).2.trace =
          r.trace := by
      cases sent with
      | some location => rfl
      | none => exact trace_stamp request _
    have hafter :
        ((check.stage.before request (Stamp.stage.before request serveOrPass)).run run).2.trace =
        after := by
      rw [run_before]
      exact (congrArg (fun end_ => end_.2.trace) (hrun _)).trans (htrace _ _ _)
    show (check.verdict request run.context.claims run.trace).2.Remarked
        ((check.stage.before request
      (Stamp.stage.before request serveOrPass)).run run).2.trace
      (check.measures request run.context.claims run.trace)
    rw [hafter]
    exact hremarked

/-- No stage after the gate measures anything about the backend by itself. -/
theorem isFetch_of_mem_measures {caller : Option Claims} {t : Trace} {m : Measurement}
    (hm : m ∈ profile.measures backend request caller t) : m.isFetch = false := by
  rw [measures] at hm
  cases hrules : profile.rules with
  | none =>
    rw [hrules] at hm
    cases hm
  | some rules =>
    rw [hrules] at hm
    exact RuleCheck.isFetch_of_mem_measures hm

theorem counts_verdict (h : backend.OnlyFetches) (profile : Profile) (request : Request)
    (caller : Option Claims) (t : Trace) :
    t.Counts (profile.verdict backend request caller t).2 [] := by
  cases hrules : profile.rules with
  | none =>
    rw [verdict, hrules]
    exact Trace.Counts.refl t
  | some rules =>
    rw [verdict_of_rules hrules]
    exact RuleCheck.counts_verdict h request caller t

/-- Whether the records that an application needs for a visit cannot be had, given the calls before:
one of the calls fails, or the time runs out. -/
def lacksRecords (profile : Profile) (resolver : Session.Resolver) (backend : Backend)
    (visit : Visit) (before : List Call) : Bool :=
  match profile.rules, profile.subject? resolver visit with
  | some rules, some claims =>
    ((profile.ruleCheck backend rules).replies claims.userId before).any Reply.isMissing
  | _, _ => false

/-- What an application that lacks the records measures. -/
def alarm (profile : Profile) (lacksRecords : Bool) : List Measurement :=
  if lacksRecords then [.failSafe profile.label "backend_unavailable"] else []

variable {visit : Visit} {before : List Call}

theorem lacksRecords_of_no_subject (h : profile.subject? resolver visit = none) :
    profile.lacksRecords resolver backend visit before = false := by
  rw [lacksRecords, h]
  cases profile.rules with
  | none | some rules => rfl

theorem lacksRecords_of_known {claims : Claims} {rules : Rule.RuleSet}
    (hexempt : (profile.gate resolver).isExempt visit.request = false)
    (hclaims : resolver visit.now visit.request = .ok claims)
    (hrules : profile.rules = some rules) :
    profile.lacksRecords resolver backend visit before =
      (profile.ruleCheck backend rules).lacksRecords visit.request (some claims) before := by
  have hsubject : profile.subject? resolver visit =
      (profile.ruleCheck backend rules).concerned? visit.request (some claims) := by
    rw [subject?, hexempt, hclaims, hrules, if_neg Bool.false_ne_true]
    rfl
  rw [lacksRecords, hrules, hsubject, RuleCheck.lacksRecords]
  cases (profile.ruleCheck backend rules).concerned? visit.request (some claims) with
  | none | some subject => rfl

theorem measures_of_known {claims : Claims} (backend : Backend) (trace : Trace)
    (hexempt : (profile.gate resolver).isExempt visit.request = false)
    (hclaims : resolver visit.now visit.request = .ok claims) :
    profile.measures backend visit.request (some claims) trace =
      profile.alarm (profile.lacksRecords resolver backend visit trace.asked) := by
  cases hrules : profile.rules with
  | none => rw [measures, lacksRecords, hrules, alarm, if_neg Bool.false_ne_true]
  | some rules =>
    rw [lacksRecords_of_known hexempt hclaims hrules, measures, hrules]
    exact RuleCheck.measures_eq _ _ _ _

theorem measures_of_unknown (profile : Profile) (backend : Backend) (request : Request)
    (trace : Trace) :
    profile.measures backend request none trace = [] := by
  rw [measures]
  cases profile.rules with
  | none => rfl
  | some rules =>
    have hconcerned : (profile.ruleCheck backend rules).concerned? request none = none :=
      Option.filter_none _
    exact by simp only [RuleCheck.measures, hconcerned]

/-- The caller that the gate finds, if it looks for one. -/
def caller? (profile : Profile) (resolver : Session.Resolver) (visit : Visit) : Option Claims :=
  if (profile.gate resolver).isExempt visit.request then none
  else (resolver visit.now visit.request).toOption

/-- What the stages after the gate measure about the caller whom the gate finds. -/
theorem measures_caller (profile : Profile) (resolver : Session.Resolver) (backend : Backend)
    (visit : Visit) (trace : Trace) :
    profile.measures backend visit.request (profile.caller? resolver visit) trace =
      profile.alarm (profile.lacksRecords resolver backend visit trace.asked) := by
  have hnobody (hcaller : profile.caller? resolver visit = none)
      (hsubject : profile.subject? resolver visit = none) :
      profile.measures backend visit.request (profile.caller? resolver visit) trace =
        profile.alarm (profile.lacksRecords resolver backend visit trace.asked) := by
    rw [hcaller, measures_of_unknown, lacksRecords_of_no_subject hsubject]
    rfl
  cases hexempt : (profile.gate resolver).isExempt visit.request with
  | true => exact hnobody (if_pos hexempt) (if_pos hexempt)
  | false =>
    cases hsession : resolver visit.now visit.request with
    | ok claims =>
      have hcaller : profile.caller? resolver visit = some claims := by
        rw [caller?, hexempt, hsession]
        rfl
      rw [hcaller]
      exact measures_of_known backend trace hexempt hsession
    | error error =>
      refine hnobody ?_ ?_
      · rw [caller?, hexempt, hsession]
        rfl
      · rw [subject?, hexempt, hsession]
        rfl

/-- **What the stages leave behind:** remarks, and among them what the check of the rules has found
out about the caller. -/
theorem trace_handler (profile : Profile) (resolver : Session.Resolver) (backend : Backend)
    (visit : Visit) (run : Run) (hclaims : run.context.claims = none) :
    ∃ before, run.trace.Remarked before [] ∧
      (profile.verdict backend visit.request (profile.caller? resolver visit) before).2.Remarked
        (((profile.chain resolver backend visit.now).handler visit.request serveOrPass).run
          run).2.trace
        (profile.measures backend visit.request (profile.caller? resolver visit) before) := by
  let gate := profile.gate resolver
  let entered : Run := { run with context := run.context.enter (gate.stage visit.now).name }
  obtain ⟨before, hbefore, hprocess⟩ := gate.run_process_remarked visit.now visit.request entered
  have hrun := hprocess (profile.afterGate backend visit.request)
  refine ⟨before, hbefore, ?_⟩
  show Trace.Remarked _ ((gate.process visit.now visit.request
    (profile.afterGate backend visit.request)).run entered).2.trace _
  rw [hrun]
  -- a gate that answers by itself leaves the check of the rules out
  have hanswered {response : Response} (hcaller : profile.caller? resolver visit = none) :
      (profile.verdict backend visit.request (profile.caller? resolver visit) before).2.Remarked
        ((Move.answer response).carryOut (profile.afterGate backend visit.request)
          { entered with trace := before }).2.trace
        (profile.measures backend visit.request (profile.caller? resolver visit) before) := by
    rw [hcaller, verdict_none, measures_of_unknown]
    exact Trace.Remarked.refl before
  cases hexempt : gate.isExempt visit.request with
  | true =>
    rw [Gate.move_of_exempt hexempt]
    exact hanswered (if_pos hexempt)
  | false =>
    have hcaller : profile.caller? resolver visit = (resolver visit.now visit.request).toOption :=
      if_neg (Bool.eq_false_iff.1 hexempt)
    cases hsession : resolver visit.now visit.request with
    | ok claims =>
      rw [hsession] at hcaller
      rw [Gate.move_of_known hexempt hsession, hcaller]
      exact trace_afterGate profile backend visit.request
        { entered with
          trace := before
          context := gate.admitted visit.request claims entered.context }
    | error error =>
      rw [hsession] at hcaller
      rw [Gate.move_of_unknown hexempt hsession]
      cases hlisted : gate.isAllowListed visit.request with
      | false => exact hanswered hcaller
      | true =>
        have hrest := trace_afterGate profile backend visit.request { entered with trace := before }
        rw [show entered.context.claims = none from hclaims] at hrest
        rw [hcaller]
        exact hrest

/-- All stages together measure whether the records can be had, and nothing else. -/
theorem counts_handler (h : backend.OnlyFetches) (profile : Profile) (resolver : Session.Resolver)
    (visit : Visit) (run : Run) (hclaims : run.context.claims = none) :
    run.trace.Counts
      (((profile.chain resolver backend visit.now).handler visit.request serveOrPass).run
        run).2.trace
      (profile.alarm (profile.lacksRecords resolver backend visit run.trace.asked)) := by
  obtain ⟨before, hbefore, hlast⟩ := profile.trace_handler resolver backend visit run hclaims
  have hgate : run.trace.Counts before [] := hbefore.counts fun m hm => absurd hm List.not_mem_nil
  have hcheck := profile.counts_verdict h visit.request (profile.caller? resolver visit) before
  have hremarks := hlast.counts fun m hm => isFetch_of_mem_measures hm
  rw [measures_caller, ← hbefore.alike.asked] at hremarks
  exact (hgate.trans hcheck).trans hremarks

/-- Without the records a caller is sent to the root of the application. -/
theorem isRedirect_of_lacksRecords {trace : Trace} (id : RequestId)
    (h : profile.lacksRecords resolver backend visit trace.asked = true) :
    ((profile.chain resolver backend visit.now).decision id trace visit.request).kind =
      "redirect" := by
  cases hsubject : profile.subject? resolver visit with
  | none =>
    rw [lacksRecords_of_no_subject hsubject] at h
    cases h
  | some claims =>
    have hsession := caller_of_subject hsubject
    have hexempt : (profile.gate resolver).isExempt visit.request = false := by
      rw [subject?] at hsubject
      by_contra hexempt
      rw [if_pos (Bool.not_eq_false _ ▸ hexempt)] at hsubject
      cases hsubject
    cases hrules : profile.rules with
    | none =>
      rw [lacksRecords, hrules] at h
      cases h
    | some rules =>
      rw [lacksRecords_of_known hexempt hsession hrules] at h
      rw [decision_eq_outcome, outcome_of_known hexempt hsession, verdict_of_rules hrules,
        RuleCheck.sent_of_lacksRecords h]
      rfl

end Profile

/-! ## Runs -/

/-- What enters and leaves a chain is measured around what its stages measure, and then the
decision. -/
theorem Chain.trace_start (chain : Chain) (id : RequestId) (trace : Trace) (request : Request) :
    ∃ line, (chain.start id trace request).2.trace =
      ((chain.handler request serveOrPass).run
        { context := { requestId := id }
          trace := trace.append [.measured .entered] }).2.trace.append
          [.measured (.decision chain.label (chain.decision id trace request).kind), .logged line,
            .measured .left] := by
  have hrun : ∃ line, (chain.start id trace request).2.trace =
      ((((chain.handler request serveOrPass).run
        { context := { requestId := id }
          trace := trace.append [.measured .entered] }).2.trace.append
          [.measured (.decision chain.label (chain.decision id trace request).kind)]).append
            [.logged line]).append [.measured .left] := ⟨_, rfl⟩
  obtain ⟨line, hline⟩ := hrun
  exact ⟨line, by rw [hline, Trace.append_append, Trace.append_append]; rfl⟩

/-- A request for an application, with all that the application has. -/
structure Arrival where
  profile : Profile
  resolver : Session.Resolver
  backend : Backend
  visit : Visit

/-- What is reported of a run. -/
structure Report where
  app : String
  decision : Decision
  lacksRecords : Bool

/-- What a run adds to the measurements apart from fetches. -/
def Report.measurements (report : Report) : List Measurement :=
  (if report.lacksRecords then [.failSafe report.app "backend_unavailable"] else []) ++
    [.decision report.app report.decision.kind]

namespace Arrival

/-- The run of an arrival after all that is in a trace. -/
def run (a : Arrival) (trace : Trace) : Response × Run :=
  (a.profile.chain a.resolver a.backend a.visit.now).start a.visit.id trace a.visit.request

/-- What is reported of it. -/
def report (a : Arrival) (trace : Trace) : Report where
  app := a.profile.label
  decision := (a.run trace).1.decision
  lacksRecords := a.profile.lacksRecords a.resolver a.backend a.visit trace.asked

/-- **What one run measures,** between entering the chain and leaving it. -/
theorem run_counts {a : Arrival} (h : a.backend.OnlyFetches) (trace : Trace) :
    ∃ inner,
      (a.run trace).2.trace = trace.append (.measured .entered :: (inner ++ [.measured .left])) ∧
      Trace.counted ⟨inner⟩ = (a.report trace).measurements := by
  obtain ⟨line, htrace⟩ := Chain.trace_start (a.profile.chain a.resolver a.backend a.visit.now)
    a.visit.id trace a.visit.request
  obtain ⟨events, hevents, hcounted⟩ := Profile.counts_handler h a.profile a.resolver a.visit
    { context := { requestId := a.visit.id }, trace := trace.append [.measured .entered] } rfl
  refine ⟨events ++ [.measured (.decision a.profile.label (a.report trace).decision.kind),
    .logged line], ?_, ?_⟩
  · rw [run, htrace, hevents]
    simp only [Trace.append_append, List.append_assoc, List.cons_append, List.nil_append]
    rfl
  · have hdecision :
        Trace.counted ⟨[.measured (.decision a.profile.label (a.report trace).decision.kind),
        .logged line]⟩ = [.decision a.profile.label (a.report trace).decision.kind] := rfl
    have hbefore : (trace.append [.measured .entered]).asked = trace.asked := by
      simp [Trace.asked]
    show Trace.counted (Trace.append ⟨events⟩ _) = _
    rw [Trace.counted_append, hcounted, hdecision, hbefore]
    rfl

/-- Whoever lacks the records is redirected. -/
theorem kind_of_lacksRecords {a : Arrival} {trace : Trace}
    (h : (a.report trace).lacksRecords = true) :
    (a.report trace).decision.kind = "redirect" :=
  Profile.isRedirect_of_lacksRecords a.visit.id h

end Arrival

/-- Run arrivals one after the other. -/
def routeAll : List Arrival → Trace → List Report × Trace
  | [], trace => ([], trace)
  | a :: arrivals, trace =>
    let rest := routeAll arrivals (a.run trace).2.trace
    (a.report trace :: rest.1, rest.2)

/-- What runs that are reported measure. -/
def measuredAll (reports : List Report) : List Measurement :=
  reports.flatMap fun report => .entered :: (report.measurements ++ [.left])

/-- **What all runs measure,** one after the other. -/
theorem routeAll_counts {arrivals : List Arrival} (h : ∀ a ∈ arrivals, a.backend.OnlyFetches) :
    ∀ trace : Trace,
      trace.Counts (routeAll arrivals trace).2 (measuredAll (routeAll arrivals trace).1) := by
  induction arrivals with
  | nil => exact fun trace => Trace.Counts.refl trace
  | cons a arrivals ih =>
    intro trace
    rw [List.forall_mem_cons] at h
    obtain ⟨inner, hrun, hinner⟩ := Arrival.run_counts h.1 trace
    have hfirst := Trace.Counts.append trace (.measured .entered :: (inner ++ [.measured .left]))
    rw [← hrun] at hfirst
    have hmeasured : Trace.counted ⟨.measured .entered :: (inner ++ [.measured .left])⟩ =
        .entered :: ((a.report trace).measurements ++ [.left]) := by
      show Trace.counted
          (Trace.append (Trace.append ⟨[.measured .entered]⟩ inner) [.measured .left]) = _
      rw [Trace.counted_append, Trace.counted_append, hinner]
      rfl
    rw [hmeasured] at hfirst
    exact hfirst.trans (ih h.2 _)

/-! ## Reports -/

theorem apps_routeAll (arrivals : List Arrival) :
    ∀ trace, (routeAll arrivals trace).1.map Report.app =
      arrivals.map fun a => a.profile.label := by
  induction arrivals with
  | nil => exact fun trace => rfl
  | cons a arrivals ih => exact fun trace => congrArg (List.cons a.profile.label) (ih _)

theorem kind_of_mem_routeAll {arrivals : List Arrival} {report : Report} :
    ∀ {trace}, report ∈ (routeAll arrivals trace).1 → report.lacksRecords = true →
      report.decision.kind = "redirect" := by
  induction arrivals with
  | nil =>
    intro trace hmem
    cases hmem
  | cons a arrivals ih =>
    intro trace hmem hlacks
    rcases List.mem_cons.1 hmem with rfl | hmem
    · exact Arrival.kind_of_lacksRecords hlacks
    · exact ih hmem hlacks

/-! ## What a registry shows of them -/

section Registry

variable (bounds : List Float)

theorem decisions_measuredAll (reports : List Report) :
    (Registry.mk bounds (measuredAll reports)).decisions =
      reports.map fun report => (report.app, report.decision.kind) := by
  induction reports with
  | nil => rfl
  | cons report reports ih =>
    have hfirst : (Registry.mk bounds (.entered :: (report.measurements ++ [.left]))).decisions =
        [(report.app, report.decision.kind)] := by
      rw [Report.measurements]
      cases report.lacksRecords with
      | true | false => rfl
    rw [measuredAll, List.flatMap_cons, Registry.decisions_append, hfirst, ← measuredAll, ih]
    rfl

theorem failSafes_measuredAll (reports : List Report) :
    (Registry.mk bounds (measuredAll reports)).failSafes =
      (reports.filter Report.lacksRecords).map fun report =>
        (report.app, "backend_unavailable") := by
  induction reports with
  | nil => rfl
  | cons report reports ih =>
    rw [measuredAll, List.flatMap_cons, Registry.failSafes_append, ← measuredAll, ih,
      List.filter_cons, Report.measurements]
    cases report.lacksRecords with
    | true | false => rfl

theorem rise_measuredAll (reports : List Report) : Registry.rise (measuredAll reports) = 0 := by
  induction reports with
  | nil => rfl
  | cons report reports ih =>
    have hfirst : Registry.rise (.entered :: (report.measurements ++ [.left])) = 0 := by
      rw [Report.measurements]
      cases report.lacksRecords with
      | true | false => rfl
    rw [measuredAll, List.flatMap_cons, Registry.rise_append, hfirst, ← measuredAll, ih]
    rfl

variable {bounds} {events : List Event} {reports : List Report}

theorem decisions_of_counted (h : Trace.counted ⟨events⟩ = measuredAll reports) :
    (Registry.mk bounds (Trace.measurements ⟨events⟩)).decisions =
      reports.map fun report => (report.app, report.decision.kind) := by
  rw [← Registry.decisions_filter, ← decisions_measuredAll bounds, ← h]
  rfl

theorem failSafes_of_counted (h : Trace.counted ⟨events⟩ = measuredAll reports) :
    (Registry.mk bounds (Trace.measurements ⟨events⟩)).failSafes =
      (reports.filter Report.lacksRecords).map fun report =>
        (report.app, "backend_unavailable") := by
  rw [← Registry.failSafes_filter, ← failSafes_measuredAll bounds, ← h]
  rfl

theorem rise_of_counted (h : Trace.counted ⟨events⟩ = measuredAll reports) :
    Registry.rise (Trace.measurements ⟨events⟩) = 0 := by
  rw [← Registry.rise_filter, ← rise_measuredAll reports, ← h]
  rfl

end Registry

theorem weight_of_mem_measurements {report : Report} {m : Measurement}
    (h : m ∈ report.measurements) :
    Registry.weight m = 0 := by
  rw [Report.measurements] at h
  rcases List.mem_append.1 h with halarm | hdecision
  · split at halarm
    · rw [List.mem_singleton.1 halarm]
      rfl
    · cases halarm
  · rw [List.mem_singleton.1 hdecision]
    rfl

/-- At every moment of a run, from when it has entered the chain until it leaves it, it is in the
chain. -/
theorem rise_of_begun {report : Report} {inner begun rest : List Event}
    (hinner : Trace.counted ⟨inner⟩ = report.measurements)
    (h : .measured .entered :: (inner ++ [.measured .left]) = begun ++ rest) (hbegun : begun ≠ [])
    (hrest : rest ≠ []) : Registry.rise (Trace.measurements ⟨begun⟩) = 1 := by
  obtain ⟨first, begun, rfl⟩ := List.exists_cons_of_ne_nil hbegun
  obtain ⟨rest, last, rfl⟩ := (List.eq_nil_or_concat rest).resolve_left hrest
  rw [List.cons_append, List.cons.injEq, List.concat_eq_append, ← List.append_assoc] at h
  obtain ⟨rfl, hinside⟩ := h
  -- what has happened after the entrance is some of what happens in between
  obtain ⟨rfl, -⟩ := List.append_inj' hinside rfl
  have hstays : Registry.rise (Trace.measurements ⟨begun⟩) = 0 := by
    refine Registry.rise_eq_zero fun m hm => ?_
    cases hfetch : m.isFetch with
    | true => exact Registry.weight_of_isFetch hfetch
    | false =>
      have hcounted : m ∈ Trace.counted (Trace.append ⟨begun⟩ rest) := by
        rw [Trace.counted_append]
        exact List.mem_append_left _ (List.mem_filter.2 ⟨hm, by rw [hfetch]; rfl⟩)
      exact weight_of_mem_measurements (hinner ▸ hcounted)
  show Registry.rise (.entered :: Trace.measurements ⟨begun⟩) = 1
  rw [Registry.rise, hstays]
  rfl

/-- **Metrics conserve requests.**  A registry is there when some requests arrive, for any
applications, and are routed one after the other.  When all of them have been, the series of an
application add up to the number of its runs, and each series is the number of runs that were
decided that way; the fail-safe redirects of an application are as many as its runs whose records
could not be had, and not more than its redirects; and nobody is in the chain.  In the next run
somebody is, from its first event up to its last. -/
theorem metrics_conserve_requests (bounds : List Float) {arrivals : List Arrival}
    (h : ∀ a ∈ arrivals, a.backend.OnlyFetches) (trace : Trace) :
    let reports := (routeAll arrivals trace).1
    let after := (routeAll arrivals trace).2
    ∃ events, after = trace.append events ∧
      let r := (Registry.mk bounds []).record (Trace.measurements ⟨events⟩)
      (∀ app, r.decided app = arrivals.countP fun a => a.profile.label == app) ∧
      (∀ app kind, r.decisions.count (app, kind) =
        reports.countP fun report => report.app == app && report.decision.kind == kind) ∧
      (∀ app, r.failSafes.count (app, "backend_unavailable") =
          reports.countP (fun report => report.app == app && report.lacksRecords) ∧
        r.failSafes.count (app, "backend_unavailable") ≤ r.decisions.count (app, "redirect")) ∧
      r.inFlight = 0 ∧
      ∀ next : Arrival, next.backend.OnlyFetches → ∃ more,
        (next.run after).2.trace = after.append more ∧
        ∀ begun rest, more = begun ++ rest → begun ≠ [] → rest ≠ [] →
          0 < (r.record (Trace.measurements ⟨begun⟩)).inFlight := by
  intro reports after
  obtain ⟨events, hafter, hcounted⟩ := routeAll_counts h trace
  refine ⟨events, hafter, ?_⟩
  intro r
  have hdecisions : r.decisions = reports.map fun report => (report.app, report.decision.kind) :=
    decisions_of_counted hcounted
  have hfailSafes : r.failSafes =
      (reports.filter Report.lacksRecords).map fun report => (report.app, "backend_unavailable") :=
    failSafes_of_counted hcounted
  have hlevel : r.inFlight = 0 := by
    rw [Registry.inFlight_record, rise_of_counted hcounted]
    rfl
  have hkinds (app kind : String) : r.decisions.count (app, kind) =
      reports.countP fun report => report.app == app && report.decision.kind == kind := by
    rw [hdecisions, List.count, List.countP_map]
    rfl
  have halarms (app : String) : r.failSafes.count (app, "backend_unavailable") =
      reports.countP (fun report => report.app == app && report.lacksRecords) := by
    rw [hfailSafes, List.count, List.countP_map, List.countP_filter]
    refine List.countP_congr fun report _ => ?_
    simp
  refine ⟨fun app => ?_, hkinds, fun app => ⟨halarms app, ?_⟩, hlevel, fun next hnext => ?_⟩
  · have happs := congrArg (List.countP (· == app)) (apps_routeAll arrivals trace)
    rw [List.countP_map, List.countP_map] at happs
    rw [Registry.decided_eq, hdecisions, List.countP_map]
    exact happs
  · rw [halarms, hkinds]
    refine List.countP_mono_left fun report hmem hreport => ?_
    rw [Bool.and_eq_true] at hreport ⊢
    exact ⟨hreport.1, beq_iff_eq.2 (kind_of_mem_routeAll hmem hreport.2)⟩
  · obtain ⟨inner, hrun, hinner⟩ := Arrival.run_counts hnext after
    refine ⟨_, hrun, fun begun rest hsplit hbegun hrest => ?_⟩
    rw [Registry.inFlight_record, hlevel, rise_of_begun hinner hsplit hbegun hrest]
    decide

/-- Two requests for one application, of which the first needs records that cannot be had, and one
for another. -/
def threeArrivals : List Arrival :=
  [⟨.forApp .administration, Profile.bearerOnly,
    Registration.Records.backend { failing := some 500 },
      ⟨0, ⟨1⟩, .ofPath "/administration/operations" Profile.bearerField⟩⟩,
    ⟨.forApp .administration, Profile.bearerOnly, Registration.Records.backend {},
      ⟨0, ⟨2⟩, .ofPath "/_next/app.js" {}⟩⟩,
    ⟨.forApp .dashboard, Profile.bearerOnly, Registration.Records.backend {},
      ⟨1, ⟨3⟩, .ofPath "/dashboard" Profile.bearerField⟩⟩]

theorem onlyFetches_of_mem_threeArrivals :
    ∀ a ∈ threeArrivals, a.backend.OnlyFetches := by
  simp only [threeArrivals, List.forall_mem_cons]
  refine ⟨?_, ?_, ?_, fun a ha => absurd ha List.not_mem_nil⟩
  all_goals exact Registration.Records.onlyFetches _

theorem metrics_conserve_requests_threeArrivals :
    ∃ events, (routeAll threeArrivals {}).2 = Trace.append {} events ∧
      let r := (Registry.mk [] []).record (Trace.measurements ⟨events⟩)
      r.decided "administration" = 2 ∧ r.decisions.count ("administration", "redirect") = 1 ∧
        r.failSafes.count ("administration", "backend_unavailable") = 1 ∧
        r.decisions.count ("dashboard", "rewrite") = 1 ∧ r.inFlight = 0 := by
  obtain ⟨events, hafter, hdecided, hkinds, halarms, hlevel, -⟩ :=
    metrics_conserve_requests [] onlyFetches_of_mem_threeArrivals {}
  refine ⟨events, hafter, (hdecided _).trans ?_, (hkinds _ _).trans ?_, (halarms _).1.trans ?_,
    (hkinds _ _).trans ?_, hlevel⟩
  all_goals decide +kernel

end Routing
end Gatehouse
