import Gatehouse.Proofs.Routing.Parts

/-!
# How stages compose

A stage is given what comes after it as a handler, and all that is known about it from its type is
that it makes a handler of a handler.  What the stages do with what they are given is said here
without looking at them: such a construction either *hands over* to the inner handler, whatever that
is, so that everything is decided by it, or *answers* by itself, and the inner handler has no part
in it.

A chain of any stages then enters the first few of them and no others.  If all of these hand over,
the chain hands over to the handler that ends it; otherwise the last one that was entered answers.

* `HandsOver`, `Answers` — the two things that can be done with an inner handler; `HandsOver.comp`
  and `Answers.comp` say how they compose.
* `Part.goesOn_or_stops` — a stage does one of the two.
* `exists_passage` — by induction on the stages: how far a request gets, and what becomes of it.
* `Chain.exists_composition` — the same for the run of a chain.
-/

set_option autoImplicit false

namespace Gatehouse
namespace Routing

variable {outer inner : Handler → Handler} {run middle reached : Run} {request : Request}
  {parts : List Part} {part : Part} {passed : Nat}

/-! ## Handing over -/

/-- A construction around a handler comes to that handler in some state, and leaves to it what is
decided and recorded. -/
def HandsOver (outer : Handler → Handler) (run reached : Run) : Prop :=
  ∀ next : Handler,
    ((outer next).run run).1.decision = (next.run reached).1.decision ∧
      ((outer next).run run).2.context = (next.run reached).2.context

/-- A construction around a handler decides and records the same whatever the handler does. -/
def Answers (outer : Handler → Handler) (run : Run) : Prop :=
  ∀ next next' : Handler,
    ((outer next).run run).1.decision = ((outer next').run run).1.decision ∧
      ((outer next).run run).2.context = ((outer next').run run).2.context

theorem HandsOver.comp (h : HandsOver outer run middle) (h' : HandsOver inner middle reached) :
    HandsOver (outer ∘ inner) run reached := fun next =>
  ⟨(h (inner next)).1.trans (h' next).1, (h (inner next)).2.trans (h' next).2⟩

/-- An answer goes for whatever hands over to it. -/
theorem HandsOver.comp_answers (h : HandsOver outer run middle) (h' : Answers inner middle) :
    Answers (outer ∘ inner) run := fun next next' =>
  ⟨(h _).1.trans ((h' next next').1.trans (h _).1.symm),
    (h _).2.trans ((h' next next').2.trans (h _).2.symm)⟩

/-- What stands behind an answer has no part in it. -/
theorem Answers.comp (h : Answers outer run) (inner : Handler → Handler) :
    Answers (outer ∘ inner) run :=
  fun next next' => h (inner next) (inner next')

/-- Nothing does both. -/
theorem HandsOver.not_answers (h : HandsOver outer run reached) : ¬ Answers outer run := by
  intro hanswers
  have hsame := (hanswers (pure .passThrough) (pure (.redirect ""))).1
  rw [(h _).1, (h _).1] at hsame
  cases hsame

/-! ## Stages -/

namespace Part

/-- Running a stage is entering it and carrying out its move. -/
theorem run_before (part : Part) (request : Request) (run : Run) :
    ∃ trace, ∀ next : Handler,
      (part.stage.before request next).run run =
        (part.step.move request (run.context.enter part.step.stage.name)
          run.trace).1.carryOutDressed
          part.step.dress next
          { context := run.context.enter part.step.stage.name, trace } := by
  let entered : Run := { run with context := run.context.enter part.step.stage.name }
  cases part with
  | gate settings now =>
    obtain ⟨trace, -, hrun⟩ := settings.run_process now request entered
    exact ⟨trace, fun next => (hrun next).trans (Move.carryOutDressed_plain _ _ _).symm⟩
  | ruleCheck settings =>
    obtain ⟨trace, -, hrun⟩ := settings.run_process request entered
    exact ⟨trace, fun next => (hrun next).trans (Move.carryOutDressed_plain _ _ _).symm⟩
  | stamp => exact ⟨run.trace, fun next => Stamp.run_process request next entered⟩

/-- A stage goes on, with what it has found and recorded. -/
structure GoesOn (part : Part) (request : Request) (run reached : Run) : Prop where
  context : reached.context =
    { run.context.enter part.stage.name with
      claims := (part.caller? request).or run.context.claims
      served := (part.recorded? request).or run.context.served }
  run : ∀ next : Handler, (part.stage.before request next).run run =
    ({ (next.run reached).1 with
        headers := part.step.dress (next.run reached).2.context (next.run reached).1.headers },
      (next.run reached).2)

/-- A stage stops a request: it is the gate or a check of the rules, and its answer is bare. -/
structure Stops (part : Part) (request : Request) (run : Run) (response : Response) (last : Run) :
    Prop where
  context : last.context = run.context.enter part.stage.name
  name : part.stage.name ∈ ["authorization", "business_rules"]
  bare : response.headers = {}
  decision : ∀ path, response.decision ≠ .serve path
  run : ∀ next : Handler, (part.stage.before request next).run run = (response, last)

theorem GoesOn.handsOver (h : part.GoesOn request run reached) :
    HandsOver (part.stage.before request) run reached := by
  intro next
  rw [h.run]
  exact ⟨rfl, rfl⟩

theorem Stops.answers {response : Response} {last : Run}
    (h : part.Stops request run response last) : Answers (part.stage.before request) run := by
  intro next next'
  rw [h.run, h.run]
  exact ⟨rfl, rfl⟩

/-- An answer of a stage is no page, and it is not a stamp that gives it. -/
theorem of_answer {context : Context} {trace after : Trace} {response : Response}
    (h : part.step.move request context trace = (.answer response, after)) :
    part.stage.name ∈ ["authorization", "business_rules"] ∧
      ∀ path, response.decision ≠ .serve path := by
  cases part with
  | gate settings now =>
    have hmove : settings.move now request context = .answer response := congrArg Prod.fst h
    refine ⟨List.mem_cons_self, ?_⟩
    cases hexempt : settings.isExempt request with
    | true =>
      rw [Gate.move_of_exempt hexempt] at hmove
      cases hmove
      exact fun path => Decision.noConfusion
    | false =>
      have hsent := Gate.isRedirect_of_answer hexempt hmove
      intro path hserve
      rw [hserve] at hsent
      cases hsent
  | ruleCheck settings =>
    have hmove : Move.sendOr context (settings.verdict request context.claims trace).1 =
        .answer response := congrArg Prod.fst h
    refine ⟨List.mem_cons_of_mem _ List.mem_cons_self, ?_⟩
    cases hsent : (settings.verdict request context.claims trace).1 with
    | none =>
      rw [hsent] at hmove
      cases hmove
    | some location =>
      rw [hsent] at hmove
      cases hmove
      exact fun path => Decision.noConfusion
  | stamp => cases h

/-- **A stage goes on or stops,** whatever comes after it. -/
theorem goesOn_or_stops (part : Part) (request : Request) (run : Run) :
    (∃ reached, part.GoesOn request run reached) ∨
      ∃ response last, part.Stops request run response last := by
  obtain ⟨trace, hrun⟩ := part.run_before request run
  have hplain :=
    part.isKnown.isPlain_move request (run.context.enter part.step.stage.name) run.trace
  rcases hmove : part.step.move request (run.context.enter part.step.stage.name) run.trace with
    ⟨response | onward, after⟩
  · obtain ⟨hname, hdecision⟩ := of_answer hmove
    rw [hmove] at hrun hplain
    exact .inr ⟨response, _, rfl, hname, hplain, hdecision, hrun⟩
  · rw [hmove] at hrun
    exact .inl ⟨{ context := onward, trace }, onward_eq hmove, hrun⟩

end Part

/-! ## Passages -/

/-- Some stages around a handler. -/
def around (request : Request) (parts : List Part) (next : Handler) : Handler :=
  parts.foldr (fun part next => part.stage.before request next) next

/-- What comes of a request at the end of some stages. -/
def ending (request : Request) (parts : List Part) (run : Run) : Response × Run :=
  (around request parts serveOrPass).run run

theorem around_append (request : Request) (parts more : List Part) :
    around request (parts ++ more) = around request parts ∘ around request more :=
  funext fun _ => List.foldr_append

/-- Header fields with the two that a stamp attaches. -/
def IsStamped (id : RequestId) (headers : Headers) : Prop :=
  headers.getAll "cache-control" = [Text.bytes "no-store"] ∧
    headers.getAll requestIdHeader = [Text.bytes id.render]

theorem Part.dress_of_ne_stamp (h : part ≠ .stamp) (context : Context) (headers : Headers) :
    part.step.dress context headers = headers := by
  cases part with
  | gate | ruleCheck => rfl
  | stamp => exact absurd rfl h

/-- An answer is stamped if it comes back through a stamp, or has been stamped already. -/
theorem Part.isStamped_dress {id : RequestId} {context : Context} {headers : Headers}
    (hid : context.requestId = id) (h : part = .stamp ∨ IsStamped id headers) :
    IsStamped id (part.step.dress context headers) := by
  by_cases hstamp : part = .stamp
  · subst hstamp hid
    refine ⟨?_, Headers.getAll_insert_self _ _ _⟩
    exact (Headers.getAll_insert_of_ne _ (by decide) _).trans (Headers.getAll_insert_self _ _ _)
  · rw [part.dress_of_ne_stamp hstamp]
    exact h.resolve_left hstamp

/-- How a request passes through some stages, going on from the first few of them. -/
structure Passage (request : Request) (parts : List Part) (run : Run) (passed : Nat) : Prop where
  bound : passed ≤ parts.length
  reaches : ∀ count ≤ passed, ∃ reached, HandsOver (around request (parts.take count)) run reached
  halts : ∀ count, passed < count → count ≤ parts.length →
    Answers (around request (parts.take count)) run
  name : ∀ part ∈ parts[passed]?, part.stage.name ∈ ["authorization", "business_rules"]
  visited : (ending request parts run).2.context.visited =
    run.context.visited ++ (parts.take (passed + 1)).map fun part => part.stage.name
  requestId : (ending request parts run).2.context.requestId = run.context.requestId
  landed : passed = parts.length →
    (ending request parts run).1.decision = landing (ending request parts run).2.context ∧
      (ending request parts run).2.context.served =
        (parts.filterMap (Part.recorded? request)).getLast?.or run.context.served
  stopped : passed < parts.length → ∀ path, (ending request parts run).1.decision ≠ .serve path
  stamped : .stamp ∈ parts.take (passed + 1) →
    IsStamped run.context.requestId (ending request parts run).1.headers
  bare : .stamp ∉ parts.take (passed + 1) → (ending request parts run).1.headers = {}

namespace Passage

/-- The end of the stages. -/
theorem nil (request : Request) (run : Run) : Passage request [] run 0 where
  bound := Nat.le_refl 0
  reaches count _ := ⟨run, fun _ => by
    rw [List.take_nil]
    exact ⟨rfl, rfl⟩⟩
  halts count hcount hbound := by
    rw [List.length_nil] at hbound
    omega
  name _ hpart := nomatch hpart
  visited := by
    rw [ending, around, List.foldr_nil, run_serveOrPass]
    exact (List.append_nil _).symm
  requestId := by
    rw [ending, around, List.foldr_nil, run_serveOrPass]
  landed _ := by
    rw [ending, around, List.foldr_nil, run_serveOrPass]
    exact ⟨rfl, rfl⟩
  stopped h := absurd h (Nat.lt_irrefl 0)
  stamped h := nomatch h
  bare _ := by
    rw [ending, around, List.foldr_nil, run_serveOrPass]

/-- A stage that stops a request. -/
theorem stop {response : Response} {last : Run} (h : part.Stops request run response last)
    (parts : List Part) : Passage request (part :: parts) run 0 := by
  have hending : ending request (part :: parts) run = (response, last) := h.run _
  exact {
    bound := Nat.zero_le _
    reaches := fun count hcount => by
      obtain rfl := Nat.le_zero.1 hcount
      exact ⟨run, fun _ => ⟨rfl, rfl⟩⟩
    halts := fun count hcount _ => by
      obtain ⟨more, rfl⟩ := Nat.exists_eq_succ_of_ne_zero (Nat.ne_of_gt hcount)
      exact h.answers.comp (around request (parts.take more))
    name := fun other hother => by
      cases hother
      exact h.name
    visited := by
      rw [hending, h.context]
      rfl
    requestId := by
      rw [hending, h.context]
      rfl
    landed := fun hlength => by
      rw [List.length_cons] at hlength
      omega
    stopped := fun _ path => by
      rw [hending]
      exact h.decision path
    stamped := fun hstamp => by
      obtain rfl := List.mem_singleton.1 hstamp
      have hname := h.name
      exact absurd hname (by decide)
    bare := fun _ => by
      rw [hending]
      exact h.bare }

/-- A stage that goes on, in front of a passage. -/
theorem step (h : part.GoesOn request run middle) (hrest : Passage request parts middle passed) :
    Passage request (part :: parts) run (passed + 1) := by
  have hending : ending request (part :: parts) run =
      ({ (ending request parts middle).1 with
          headers := part.step.dress (ending request parts middle).2.context
            (ending request parts middle).1.headers },
        (ending request parts middle).2) := h.run _
  have hid : middle.context.requestId = run.context.requestId := by
    rw [h.context]
    rfl
  exact {
    bound := Nat.succ_le_succ hrest.bound
    reaches := fun count hcount => by
      cases count with
      | zero => exact ⟨run, fun _ => ⟨rfl, rfl⟩⟩
      | succ count =>
        obtain ⟨reached, hreached⟩ := hrest.reaches count (Nat.le_of_succ_le_succ hcount)
        exact ⟨reached, h.handsOver.comp hreached⟩
    halts := fun count hcount hbound => by
      obtain ⟨more, rfl⟩ := Nat.exists_eq_succ_of_ne_zero (Nat.ne_of_gt (Nat.zero_lt_of_lt hcount))
      exact h.handsOver.comp_answers
        (hrest.halts more (Nat.lt_of_succ_lt_succ hcount) (Nat.le_of_succ_le_succ hbound))
    name := hrest.name
    visited := by
      rw [hending, hrest.visited, h.context]
      exact List.append_assoc _ _ _
    requestId := by
      rw [hending, hrest.requestId, hid]
    landed := fun hlength => by
      obtain ⟨hdecision, hserved⟩ := hrest.landed (Nat.succ_inj.1 hlength)
      rw [hending]
      refine ⟨hdecision, ?_⟩
      rw [hserved, h.context, ← Option.or_assoc]
      cases hrecorded : part.recorded? request with
      | none => rw [List.filterMap_cons_none hrecorded, Option.or_none]
      | some path =>
        rw [List.filterMap_cons_some hrecorded, List.getLast?_cons]
        cases (parts.filterMap (Part.recorded? request)).getLast? with
        | none | some last => rfl
    stopped := fun hlength path => by
      rw [hending]
      exact hrest.stopped (Nat.lt_of_succ_lt_succ hlength) path
    stamped := fun hstamp => by
      rw [hending, ← hid]
      refine part.isStamped_dress hrest.requestId ?_
      rw [List.take_succ_cons] at hstamp
      exact (List.mem_cons.1 hstamp).imp Eq.symm hrest.stamped
    bare := fun hstamp => by
      rw [List.take_succ_cons, List.mem_cons, not_or] at hstamp
      rw [hending, part.dress_of_ne_stamp (Ne.symm hstamp.1)]
      exact hrest.bare hstamp.2 }

end Passage

/-- **A request passes through the first few of some stages.** -/
theorem exists_passage (request : Request) (parts : List Part) :
    ∀ run, ∃ passed, Passage request parts run passed := by
  -- by induction on the stages, each of which goes on to the rest of them or stops the request
  induction parts with
  | nil => exact fun run => ⟨0, .nil request run⟩
  | cons part parts ih =>
    intro run
    obtain ⟨middle, hgoes⟩ | ⟨response, last, hstops⟩ := part.goesOn_or_stops request run
    · obtain ⟨passed, hrest⟩ := ih middle
      exact ⟨passed + 1, .step hgoes hrest⟩
    · exact ⟨0, .stop hstops parts⟩

namespace Passage

/-- The first stages hand over just if there are no more of them than are passed. -/
theorem handsOver_iff (h : Passage request parts run passed) {count : Nat}
    (hcount : count ≤ parts.length) :
    (∃ reached, HandsOver (around request (parts.take count)) run reached) ↔ count ≤ passed := by
  refine ⟨fun ⟨reached, hreached⟩ => ?_, h.reaches count⟩
  exact Nat.le_of_not_lt fun hmore => hreached.not_answers (h.halts count hmore hcount)

/-- A stage that is entered hands over if it is passed, and otherwise it answers. -/
theorem turn (h : Passage request parts run passed) {count : Nat} (hcount : count ≤ passed)
    (hpart : parts[count]? = some part) :
    ∃ before, HandsOver (around request (parts.take count)) run before ∧
      (count < passed ∧ (∃ after, HandsOver (part.stage.before request) before after) ∨
        count = passed ∧ Answers (part.stage.before request) before) := by
  obtain ⟨hbound, rfl⟩ := List.getElem?_eq_some_iff.1 hpart
  obtain ⟨before, hbefore⟩ := h.reaches count hcount
  have htake : around request (parts.take (count + 1)) =
      around request (parts.take count) ∘ parts[count].stage.before request := by
    rw [← List.take_append_getElem hbound, around_append]
    rfl
  refine ⟨before, hbefore, ?_⟩
  obtain ⟨after, hgoes⟩ | ⟨response, last, hstops⟩ := parts[count].goesOn_or_stops request before
  · have hmore := (h.handsOver_iff hbound).1 ⟨after, htake ▸ hbefore.comp hgoes.handsOver⟩
    exact .inl ⟨hmore, after, hgoes.handsOver⟩
  · refine .inr ⟨Nat.le_antisymm hcount (Nat.le_of_not_lt fun hmore => ?_), hstops.answers⟩
    obtain ⟨reached, hreached⟩ := h.reaches (count + 1) hmore
    rw [htake] at hreached
    exact hreached.not_answers (hbefore.comp_answers hstops.answers)

/-- All stages are passed if the last one is entered and hands over. -/
theorem passed_all_iff (h : Passage request parts run passed) :
    parts.length ≤ passed ↔
      min (passed + 1) parts.length = parts.length ∧ ∀ part ∈ parts.getLast?, ∃ before after,
        HandsOver (around request parts.dropLast) run before ∧
          HandsOver (part.stage.before request) before after := by
  constructor
  · intro hall
    refine ⟨by omega, fun part hlast => ?_⟩
    rw [Option.mem_def, List.getLast?_eq_getElem?] at hlast
    obtain ⟨hbound, -⟩ := List.getElem?_eq_some_iff.1 hlast
    obtain ⟨before, hbefore, ⟨-, after, hafter⟩ | ⟨hstopped, -⟩⟩ := h.turn (by omega) hlast
    · rw [← List.dropLast_eq_take] at hbefore
      exact ⟨before, after, hbefore, hafter⟩
    · omega
  · rintro ⟨-, hlast⟩
    cases hparts : parts.getLast? with
    | none =>
      rw [List.getLast?_eq_none_iff.1 hparts]
      exact Nat.zero_le _
    | some part =>
      obtain ⟨before, after, hbefore, hafter⟩ := hlast part hparts
      obtain ⟨first, rfl⟩ := List.getLast?_eq_some_iff.1 hparts
      rw [List.dropLast_concat] at hbefore
      refine (h.handsOver_iff (Nat.le_refl _)).1 ⟨after, ?_⟩
      rw [List.take_length, around_append]
      exact hbefore.comp hafter

/-- If not all stages are passed, the one behind those that are answers. -/
theorem answered (h : Passage request parts run passed) (hless : passed < parts.length) :
    Answers (around request parts) run ∧
      ∃ part before, parts[passed]? = some part ∧
        part.stage.name ∈ ["authorization", "business_rules"] ∧
        HandsOver (around request (parts.take passed)) run before ∧
        Answers (part.stage.before request) before := by
  have hpart := List.getElem?_eq_getElem hless
  obtain ⟨before, hbefore, ⟨hmore, -⟩ | ⟨-, hanswers⟩⟩ := h.turn (Nat.le_refl passed) hpart
  · exact absurd hmore (Nat.lt_irrefl passed)
  · refine ⟨?_, _, before, hpart, h.name _ hpart, hbefore, hanswers⟩
    have hall := h.halts parts.length hless (Nat.le_refl _)
    rwa [List.take_length] at hall

/-- Only whoever passes all stages is served a page, and it is the one that was recorded last. -/
theorem of_serve (h : Passage request parts run passed) {path : String}
    (hserve : (ending request parts run).1.decision = .serve path) :
    parts.length ≤ passed ∧ (ending request parts run).2.context.served = some path := by
  rcases Nat.lt_or_ge passed parts.length with hless | hall
  · exact absurd hserve (h.stopped hless path)
  · have hlanded := (h.landed (Nat.le_antisymm h.bound hall)).1
    rw [hserve, landing] at hlanded
    refine ⟨hall, ?_⟩
    split at hlanded
    · next served hserved =>
      cases hlanded
      exact hserved
    · cases hlanded

/-- The answer is stamped just if a stamp has been entered. -/
theorem isStamped_iff (h : Passage request parts run passed) :
    IsStamped run.context.requestId (ending request parts run).1.headers ↔
      .stamp ∈ parts.take (passed + 1) := by
  refine ⟨fun hstamped => ?_, h.stamped⟩
  refine Classical.byContradiction fun hnone => ?_
  have hbare := hstamped.2
  rw [h.bare hnone] at hbare
  cases hbare

end Passage

/-! ## Chains -/

/-- The state of a request of which nothing is known yet. -/
def Run.fresh (id : RequestId) (trace : Trace) : Run where
  context := { requestId := id }
  trace

/-- The same state when it has been counted that a chain is entered. -/
def Run.counted (run : Run) : Run :=
  { run with trace := run.trace.append [.measured .entered] }

namespace Chain

variable {label : String}

/-- What a chain adds to its stages is remarks. -/
theorem run_processWith (label : String) (parts : List Part) (request : Request) (next : Handler)
    (run : Run) :
    (((ofParts label parts).processWith request next).run run).1 =
        ((around request parts next).run run.counted).1 ∧
      (((ofParts label parts).processWith request next).run run).2.context =
        ((around request parts next).run run.counted).2.context := by
  have hhandler : (ofParts label parts).handler request next = around request parts next :=
    List.foldr_map
  rw [← hhandler]
  exact ⟨rfl, rfl⟩

theorem handsOver_iff :
    HandsOver ((ofParts label parts).processWith request) run reached ↔
      HandsOver (around request parts) run.counted reached := by
  refine forall_congr' fun next => ?_
  obtain ⟨hresponse, hcontext⟩ := run_processWith label parts request next run
  rw [hresponse, hcontext]

theorem answers_iff :
    Answers ((ofParts label parts).processWith request) run ↔
      Answers (around request parts) run.counted := by
  refine forall_congr' fun next => forall_congr' fun next' => ?_
  obtain ⟨hresponse, hcontext⟩ := run_processWith label parts request next run
  obtain ⟨hresponse', hcontext'⟩ := run_processWith label parts request next' run
  rw [hresponse, hcontext, hresponse', hcontext']

/-- A request comes to the handler that ends a chain. -/
def Completes (chain : Chain) (request : Request) (run : Run) : Prop :=
  ∃ reached, HandsOver (chain.processWith request) run reached

theorem completes_iff :
    (ofParts label parts).Completes request run ↔
      ∃ reached, HandsOver (around request parts) run.counted reached :=
  exists_congr fun _ => handsOver_iff

/-- What comes of a request that enters the first few stages of a chain and no others. -/
structure Composition (label : String) (parts : List Part) (id : RequestId) (trace : Trace)
    (request : Request) (entered : Nat) : Prop where
  bound : entered ≤ parts.length
  /-- These are the stages to which the stages before them hand over. -/
  enters : ∀ count < parts.length,
    (ofParts label (parts.take count)).Completes request (.fresh id trace) ↔ count < entered
  visited : ((ofParts label parts).start id trace request).2.context.visited =
    (ofParts label parts).stageNames.take entered
  /-- The handler at the end is run if all stages are entered and the last one hands over. -/
  completes : (ofParts label parts).Completes request (.fresh id trace) ↔
    entered = parts.length ∧ ∀ part ∈ parts.getLast?, ∃ before after,
      HandsOver ((ofParts label parts.dropLast).processWith request) (.fresh id trace) before ∧
        HandsOver (part.stage.before request) before after
  /-- Otherwise the last stage that was entered has answered. -/
  ended : (ofParts label parts).Completes request (.fresh id trace) ∨
    Answers ((ofParts label parts).processWith request) (.fresh id trace) ∧
      ∃ last part before, entered = last + 1 ∧ parts[last]? = some part ∧
        part.stage.name ∈ ["authorization", "business_rules"] ∧
        HandsOver ((ofParts label (parts.take last)).processWith request) (.fresh id trace) before ∧
        Answers (part.stage.before request) before
  served : ∀ path, ((ofParts label parts).start id trace request).1.decision = .serve path →
    (ofParts label parts).Completes request (.fresh id trace) ∧
      ((ofParts label parts).start id trace request).2.context.served = some path ∧
      ((parts.take entered).filterMap (Part.recorded? request)).getLast? = some path
  stamped : IsStamped id ((ofParts label parts).start id trace request).1.headers ↔
    .stamp ∈ parts.take entered

/-- **A chain of any stages enters the first few of them,** whatever the request and the
backends. -/
theorem exists_composition (label : String) (parts : List Part) (id : RequestId) (trace : Trace)
    (request : Request) : ∃ entered, Composition label parts id trace request entered := by
  obtain ⟨passed, hpassage⟩ := exists_passage request parts (Run.fresh id trace).counted
  have hentered : parts.take (min (passed + 1) parts.length) = parts.take (passed + 1) :=
    List.take_eq_take_min.symm
  have hstart : ((ofParts label parts).start id trace request).1 =
        (ending request parts (Run.fresh id trace).counted).1 ∧
      ((ofParts label parts).start id trace request).2.context =
        (ending request parts (Run.fresh id trace).counted).2.context :=
    run_processWith label parts request serveOrPass (.fresh id trace)
  have hwhole : (ofParts label parts).Completes request (.fresh id trace) ↔
      parts.length ≤ passed := by
    have hall := hpassage.handsOver_iff (Nat.le_refl _)
    rw [List.take_length] at hall
    exact completes_iff.trans hall
  refine ⟨min (passed + 1) parts.length, {
    bound := Nat.min_le_right _ _
    enters := fun count hcount => ?enters
    visited := ?visited
    completes := ?completes
    ended := ?ended
    served := fun path hserve => ?served
    stamped := ?stamped }⟩
  case enters =>
    rw [completes_iff, hpassage.handsOver_iff (Nat.le_of_lt hcount)]
    omega
  case visited =>
    rw [hstart.2, hpassage.visited, stageNames, ofParts, List.map_map, ← List.map_take, hentered]
    rfl
  case completes =>
    rw [hwhole]
    simpa only [handsOver_iff] using hpassage.passed_all_iff
  case ended =>
    rcases Nat.lt_or_ge passed parts.length with hless | hall
    · obtain ⟨hanswers, part, before, hpart, hname, hbefore, hanswer⟩ := hpassage.answered hless
      exact .inr ⟨answers_iff.2 hanswers, passed, part, before, Nat.min_eq_left hless, hpart, hname,
        handsOver_iff.2 hbefore, hanswer⟩
    · exact .inl (hwhole.2 hall)
  case served =>
    rw [hstart.1] at hserve
    obtain ⟨hall, hserved⟩ := hpassage.of_serve hserve
    have hrecorded := (hpassage.landed (Nat.le_antisymm hpassage.bound hall)).2
    rw [hserved] at hrecorded
    refine ⟨hwhole.2 hall, by rw [hstart.2, hserved], ?_⟩
    rw [List.take_of_length_le (by omega), hrecorded]
    exact (Option.or_none).symm
  case stamped =>
    rw [hstart.1, hentered]
    exact hpassage.isStamped_iff

/-- A gate in the second place turns a stranger away, and the stamp in front of it has been
entered. -/
example :
    let gate : Gate := { resolver := fun _ _ => .error .absent, basePath := "/a" }
    let start := (ofParts "a" [.stamp, .gate gate 0, .stamp]).start ⟨1⟩ {} (.ofPath "/a/b" {})
    start.2.context.visited = ["response", "authorization"] ∧
      start.1.decision.isRedirect = true := by
  decide

end Chain
end Routing
end Gatehouse
