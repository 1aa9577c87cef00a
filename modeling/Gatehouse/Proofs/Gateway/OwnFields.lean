import Gatehouse.Proofs.Gateway.HomeOnWire
import Gatehouse.Proofs.Gateway.Transparent

/-!
# The fields of the gateway

Two header fields of a reply are the gateway's own: the identifier of the request, and the path that
the page server was asked for if the chain has chosen one.  A page may come with fields of these
names as well.  What the stages attach goes in place of what a page has, and so does the path that
was chosen.  But under a path that is exempt no stage attaches the identifier, a page that is asked
for under the path of the request is not given any, and what tells of a fault names no path at all.

* `hasOwnFields_addIfMissing_iff` — when the identifier of a request comes to stand alone.
* `Service.hasOwnFields_of_page_iff` — which pages go back with the fields of the gateway.
* `Service.own_fields_iff` — which replies have them.
* `Service.isStamped_iff` — under which paths the stages of an application attach the identifier.
* `Service.fields_forged` — a page that has both, and a fault without a path.
-/

set_option autoImplicit false

namespace Gatehouse
namespace Gateway

open Routing (HasNoOtherId)

variable {id : RequestId} {extra : Headers} {reply page : Http.Reply}

/-! ## The two fields -/

/-- A reply has the identifier of the request and no other, and the path that was chosen, if one
was. -/
structure HasOwnFields (reply : Http.Reply) (id : RequestId) (chosen? : Option String) : Prop where
  id : reply.headers.getAll requestIdHeader = [Text.bytes id.render]
  served : reply.headers.getAll servedPathHeader = (chosen?.map Text.bytes).toList

/-- A reply has neither of the fields. -/
structure IsBare (reply : Http.Reply) : Prop where
  id : reply.headers.getAll requestIdHeader = []
  served : reply.headers.getAll servedPathHeader = []

/-- What the gateway says itself comes without them. -/
theorem isBare_jsonReply (status : Http.Status) (body : Json) : IsBare (jsonReply status body) where
  id := Headers.getAll_insert_of_ne Headers.empty (by decide) _
  served := Headers.getAll_insert_of_ne Headers.empty (by decide) _

theorem isBare_redirectReply (status : Http.Status) (location : String) (id : RequestId) :
    IsBare (redirectReply status location id) := by
  unfold redirectReply
  split
  · next value _ =>
    exact ⟨Headers.getAll_insert_of_ne Headers.empty (by decide) value,
      Headers.getAll_insert_of_ne Headers.empty (by decide) value⟩
  · exact isBare_jsonReply _ _

/-- The value that is attached last goes in place of those of a reply. -/
theorem getAll_merge (reply : Http.Reply) (extra : Headers) (name : String) :
    (merge reply extra).headers.getAll name =
      match (extra.getAll name).getLast? with
      | some value => [value]
      | none => reply.headers.getAll name :=
  Headers.getAll_foldl_insert extra.fields reply.headers name

/-- With the fields of the stages a reply has no other identifier just if they have one, or it had
no other. -/
theorem hasNoOtherId_merge_iff (hextra : HasNoOtherId id extra) :
    HasNoOtherId id (merge reply extra).headers ↔
      extra.getAll requestIdHeader ≠ [] ∨ HasNoOtherId id reply.headers := by
  unfold HasNoOtherId
  rw [getAll_merge]
  rcases hextra with hnone | hid
  · simp [hnone]
  · simp [hid]

/-- **The identifier of a request comes to stand alone just if there is no other.** -/
theorem getAll_addIfMissing_iff :
    (addIfMissing reply requestIdHeader (Text.bytes id.render)).headers.getAll requestIdHeader =
        [Text.bytes id.render] ↔ HasNoOtherId id reply.headers := by
  by_cases hmissing : reply.headers.getAll requestIdHeader = []
  · exact iff_of_true (getAll_addIfMissing_of_missing reply hmissing _) (Or.inl hmissing)
  · have hcontains := (Headers.contains_iff reply.headers requestIdHeader).2 hmissing
    rw [addIfMissing, if_pos hcontains, HasNoOtherId, or_iff_right hmissing]

theorem hasOwnFields_addIfMissing_iff {chosen? : Option String} :
    HasOwnFields (addIfMissing reply requestIdHeader (Text.bytes id.render)) id chosen? ↔
      HasNoOtherId id reply.headers ∧
        reply.headers.getAll servedPathHeader = (chosen?.map Text.bytes).toList := by
  have hserved := getAll_addIfMissing_of_ne reply (by decide : requestIdHeader ≠ servedPathHeader)
    (Text.bytes id.render)
  constructor
  · intro h
    exact ⟨getAll_addIfMissing_iff.1 h.id, hserved ▸ h.served⟩
  · rintro ⟨hid, hchosen⟩
    exact ⟨getAll_addIfMissing_iff.2 hid, hserved.trans hchosen⟩

/-- A reply that comes without the fields gets them. -/
theorem hasOwnFields_of_isBare (h : IsBare reply) :
    HasOwnFields (addIfMissing reply requestIdHeader (Text.bytes id.render)) id none :=
  hasOwnFields_addIfMissing_iff.2 ⟨Or.inl h.id, h.served⟩

/-- So does one that is dressed by the stages first. -/
theorem hasOwnFields_merge_of_isBare (h : IsBare reply) (hextra : HasNoOtherId id extra)
    (hserved : servedPathHeader ∉ extra.names) :
    HasOwnFields (addIfMissing (merge reply extra) requestIdHeader (Text.bytes id.render)) id
      none := by
  refine hasOwnFields_addIfMissing_iff.2
    ⟨(hasNoOtherId_merge_iff hextra).2 (Or.inr (Or.inl h.id)), ?_⟩
  rw [getAll_merge_of_notMem reply hserved]
  exact h.served

/-! ## Pages -/

theorem hasNoOtherId_handedOn_iff (page : Http.Reply) (target : String) (isChosen : Bool)
    (hextra : HasNoOtherId id extra) :
    HasNoOtherId id (handedOn page target isChosen extra).headers ↔
      extra.getAll requestIdHeader ≠ [] ∨ HasNoOtherId id page.headers := by
  have hpage : (handedOn page target isChosen {}).headers.getAll requestIdHeader =
      page.headers.getAll requestIdHeader :=
    getAll_handedOn page target isChosen (by decide) (List.not_mem_nil)
  rw [show handedOn page target isChosen extra = merge (handedOn page target isChosen {}) extra
    from rfl, hasNoOtherId_merge_iff hextra, HasNoOtherId, hpage, ← HasNoOtherId]

/-- The path stands in a page if it was chosen and can be a header value; otherwise the page has
what it came with. -/
theorem getAll_served_handedOn (page : Http.Reply) (target : String) (isChosen : Bool)
    (hserved : servedPathHeader ∉ extra.names) :
    (handedOn page target isChosen extra).headers.getAll servedPathHeader =
      if isChosen && target.toList.all Headers.isValueChar then [Text.bytes target]
      else page.headers.getAll servedPathHeader := by
  have hreceived : (Forwarder.received page).headers.getAll servedPathHeader =
      page.headers.getAll servedPathHeader := getAll_withoutConnectionFields _ _
  rw [handedOn, getAll_merge_of_notMem _ hserved, Headers.value?_bytes]
  cases target.toList.all Headers.isValueChar with
  | false =>
    rw [Bool.and_false]
    exact hreceived
  | true =>
    cases isChosen with
    | false => exact hreceived
    | true => exact Headers.getAll_insert_self _ _ _

/-! ## Faults -/

/-- A reply that tells of a fault, and to which request it belongs. -/
def IsFault (reply : Http.Reply) (id : RequestId) : Prop :=
  ∃ status error message, TellsOf reply status error message id

/-- A fault that the stages have dressed tells of itself as well. -/
theorem isFault_merge {status : Http.Status} {envelope : Envelope} (hextra : HasNoOtherId id extra)
    (htype : "content-type" ∉ extra.names) :
    IsFault (addIfMissing (merge (faultReply status envelope id) extra) requestIdHeader
      (Text.bytes id.render)) id := by
  have hid : HasNoOtherId id (merge (faultReply status envelope id) extra).headers :=
    (hasNoOtherId_merge_iff hextra).2 (Or.inr (Or.inl (isBare_jsonReply _ _).id))
  refine ⟨status, envelope.error, envelope.message, ?_, ?_, ?_, getAll_addIfMissing_iff.2 hid⟩
  · rw [status_addIfMissing]
    rfl
  · rw [body_addIfMissing]
    rfl
  · rw [getAll_addIfMissing_of_ne _ (by decide), getAll_merge_of_notMem _ htype]
    exact Headers.getAll_insert_self _ _ _

namespace Service

variable {s : Service} {vitals : Vitals} {fresh : RequestId} {request : Http.Incoming}
  {state : State} {endpoint target location : String} {status : Http.Status}

/-! ## What the gateway says itself -/

/-- The replies of its own endpoints are bare. -/
theorem isBare_own (s : Service) (vitals : Vitals) (endpoint : String) (id : RequestId)
    (state : State) : IsBare ((s.own vitals endpoint id).run state).1 := by
  unfold own
  split
  · exact isBare_jsonReply _ _
  · exact isBare_jsonReply _ _
  · cases vitals.metrics with
    | none => exact isBare_jsonReply _ _
    | some text => exact ⟨rfl, rfl⟩
  · exact isBare_jsonReply _ _
  · exact isBare_jsonReply _ _

/-- What an endpoint says when there is nothing to say is that. -/
theorem exists_fault_of_own (s : Service) (id : RequestId) (state : State)
    (h : endpoint ∉ ["health", "ready", "version"])
    (hmetrics : endpoint = "metrics" → vitals.metrics = none) :
    ∃ status envelope,
      ((s.own vitals endpoint id).run state).1 = faultReply status envelope id := by
  simp only [List.mem_cons, List.not_mem_nil, or_false, not_or] at h
  unfold own
  split
  · exact absurd rfl h.1
  · exact absurd rfl h.2.1
  · rw [hmetrics rfl]
    exact ⟨_, _, rfl⟩
  · exact absurd rfl h.2.2
  · exact ⟨_, _, rfl⟩

/-- The reply to a request to the gateway itself is what its endpoint says, with the identifier. -/
theorem reply_of_own (h : endpoint? request = some endpoint) :
    s.reply vitals fresh request state =
      addIfMissing ((s.own vitals endpoint (idFor fresh request)).run state).1 requestIdHeader
        (Text.bytes (idFor fresh request).render) := by
  obtain ⟨rest, hrest, rfl⟩ := Option.map_eq_some_iff.1 h
  unfold reply handle
  simp only [hrest]
  rfl

/-- Without a page there is a fault. -/
theorem reply_of_missing (vitals : Vitals) (hendpoint : endpoint? request = none)
    (htarget : s.target? fresh request state = some target)
    (hpage : s.pageFor? fresh request state target = none) :
    ∃ e, s.reply vitals fresh request state =
      addIfMissing (errorReply e (idFor fresh request)) requestIdHeader
        (Text.bytes (idFor fresh request).render) := by
  have hown := not_own_of_endpoint hendpoint
  cases hbody : request.body with
  | error cause => exact ⟨_, reply_eq_of_unreadable vitals hown htarget hbody⟩
  | ok body =>
    obtain ⟨cause, hcause⟩ := reply_eq_of_no_page vitals hown htarget hbody hpage
    exact ⟨_, hcause⟩

/-! ## Which replies have the fields -/

/-- The path that is chosen for a request, if one is. -/
def chosen? (s : Service) (fresh : RequestId) (request : Http.Incoming) (state : State) :
    Option String :=
  match endpoint? request, (s.routed fresh request state).1.decision with
  | none, .serve path => some path
  | _, _ => none

/-- The stages attach the identifier of a request. -/
def IsStamped (s : Service) (fresh : RequestId) (request : Http.Incoming) (state : State) : Prop :=
  (s.routed fresh request state).1.headers.getAll requestIdHeader ≠ []

/-- A page has no identifier but that of the request, or the stages attach that in place of it. -/
def IsNamed (s : Service) (fresh : RequestId) (request : Http.Incoming) (state : State)
    (id : RequestId) (page : Http.Reply) : Prop :=
  s.IsStamped fresh request state ∨ HasNoOtherId id page.headers

/-- The page server leaves the fields of the gateway to the gateway, where that does not put its own
in place of them.  Of a redirect it hears nothing; a page under the path of the request must not
name a path; and under a path that was chosen there must be a page to put it into. -/
def LeavesOwnFields (s : Service) (fresh : RequestId) (request : Http.Incoming) (state : State)
    (id : RequestId) : Prop :=
  match (s.routed fresh request state).1.decision with
  | .redirect _ _ => True
  | .passThrough =>
    ∀ page ∈ s.pageFor? fresh request state (Request.ofUri request.uri request.headers).path,
      s.IsNamed fresh request state id page ∧ page.headers.getAll servedPathHeader = []
  | .serve path =>
    ∃ page ∈ s.pageFor? fresh request state path, s.IsNamed fresh request state id page ∧
      ((∀ c ∈ path.toList, Headers.isValueChar c = true) ∨
        page.headers.getAll servedPathHeader = [Text.bytes path])

/-- A request is named to the page server, and in every fault. -/
structure NamesRequest (s : Service) (vitals : Vitals) (fresh : RequestId) (request : Http.Incoming)
    (state : State) (id : RequestId) : Prop where
  /-- Whatever is handed on has the identifier and no other. -/
  sent : endpoint? request = none → ∀ out ∈ s.sent vitals fresh request state,
    out.headers.getAll requestIdHeader = [Text.bytes id.render]
  /-- An endpoint that does not exist, or that has nothing to report. -/
  own : ∀ endpoint, endpoint? request = some endpoint → endpoint ∉ ["health", "ready", "version"] →
    (endpoint = "metrics" → vitals.metrics = none) → IsFault (s.reply vitals fresh request state) id
  /-- A redirect that cannot be a header value. -/
  redirect : endpoint? request = none → ∀ location status,
    (s.routed fresh request state).1.decision = .redirect location status →
      (¬ ∀ c ∈ location.toList, Headers.isValueChar c = true) →
        IsFault (s.reply vitals fresh request state) id
  /-- A body that cannot be read, or a page that does not come back. -/
  page : endpoint? request = none → ∀ target ∈ s.target? fresh request state,
    s.pageFor? fresh request state target = none →
      IsFault (s.reply vitals fresh request state) id

theorem namesRequest (s : Service) (vitals : Vitals) (fresh : RequestId) (request : Http.Incoming)
    (state : State) (hbuilt : s.chain.IsBuilt) :
    s.NamesRequest vitals fresh request state (idFor fresh request) where
  sent := by
    intro hendpoint out hout
    rw [sent_of_quiet hbuilt.isQuiet, asked_of_app hendpoint, Option.mem_toList] at hout
    obtain ⟨target, -, hasked⟩ := Option.bind_eq_some_iff.1 hout
    obtain ⟨url, -, hfields⟩ := getAll_of_outgoing hasked
    exact (hfields requestIdHeader).trans (if_pos rfl)
  own := by
    intro endpoint hendpoint hunknown hmetrics
    obtain ⟨status, envelope, hfault⟩ :=
      s.exists_fault_of_own (idFor fresh request) state hunknown hmetrics
    rw [reply_of_own hendpoint, hfault]
    exact ⟨_, _, _, tellsOf_faultReply status envelope _⟩
  redirect := by
    intro hendpoint location status hsent hlocation
    rw [reply_of_redirect vitals (not_own_of_endpoint hendpoint) hsent, redirectReply,
      Headers.value?_bytes_of_not_forall hlocation]
    exact isFault_merge (hbuilt.hasNoOtherId _ _ _) (hbuilt.notMem_names (by decide) _ _ _)
  page := by
    intro hendpoint target htarget hpage
    obtain ⟨e, he⟩ := reply_of_missing vitals hendpoint htarget hpage
    rw [he]
    exact ⟨_, _, _, tellsOf_errorReply e _⟩

/-- Whatever the gateway says itself about a request names the request and no path. -/
theorem hasOwnFields_of_no_page (hbuilt : s.chain.IsBuilt)
    (hpage : endpoint? request = none → ∀ target ∈ s.target? fresh request state,
      s.pageFor? fresh request state target = none) :
    HasOwnFields (s.reply vitals fresh request state) (idFor fresh request) none := by
  cases hendpoint : endpoint? request with
  | some endpoint =>
    rw [reply_of_own hendpoint]
    exact hasOwnFields_of_isBare (s.isBare_own vitals endpoint _ state)
  | none =>
    cases htarget : s.target? fresh request state with
    | some target =>
      obtain ⟨e, he⟩ := reply_of_missing vitals hendpoint htarget
        (hpage hendpoint target htarget)
      rw [he]
      exact hasOwnFields_of_isBare (isBare_jsonReply _ _)
    | none =>
      cases hdecision : (s.routed fresh request state).1.decision with
      | redirect location status =>
        rw [reply_of_redirect vitals (not_own_of_endpoint hendpoint) hdecision]
        exact hasOwnFields_merge_of_isBare (isBare_redirectReply _ _ _) (hbuilt.hasNoOtherId _ _ _)
          (hbuilt.notMem_names (by decide) _ _ _)
      | passThrough | serve =>
        rw [target?, hdecision] at htarget
        cases htarget

/-- **A page goes back with the fields of the gateway** just if the stages have attached the
identifier or the page has no other, and if the path is put into it or is what it came with. -/
theorem hasOwnFields_of_page_iff (hbuilt : s.chain.IsBuilt) (hendpoint : endpoint? request = none)
    (htarget : s.target? fresh request state = some target)
    (hpage : s.pageFor? fresh request state target = some page) (chosen? : Option String) :
    HasOwnFields (s.reply vitals fresh request state) (idFor fresh request) chosen? ↔
      s.IsNamed fresh request state (idFor fresh request) page ∧
        (if (s.routed fresh request state).1.decision.isServe &&
            target.toList.all Headers.isValueChar then [Text.bytes target]
          else page.headers.getAll servedPathHeader) = (chosen?.map Text.bytes).toList := by
  have hid : HasNoOtherId (idFor fresh request) (s.routed fresh request state).1.headers :=
    hbuilt.hasNoOtherId _ _ _
  have hserved : servedPathHeader ∉ (s.routed fresh request state).1.headers.names :=
    hbuilt.notMem_names (by decide) _ _ _
  rw [reply_of_page vitals (not_own_of_endpoint hendpoint) htarget hpage,
    hasOwnFields_addIfMissing_iff, hasNoOtherId_handedOn_iff _ _ _ hid,
    getAll_served_handedOn _ _ _ hserved]
  rfl

/-- A page that is not there is answered with a fault, which names no path. -/
theorem hasOwnFields_of_missing (hbuilt : s.chain.IsBuilt) {path : String}
    (htarget : s.target? fresh request state = some path)
    (hpage : s.pageFor? fresh request state path = none) :
    HasOwnFields (s.reply vitals fresh request state) (idFor fresh request) none :=
  hasOwnFields_of_no_page hbuilt fun _ other hother => by
    obtain rfl : path = other := Option.some.inj (htarget.symm.trans hother)
    exact hpage

/-- A page under the path of the request must come without a path. -/
theorem hasOwnFields_of_passed_iff (hbuilt : s.chain.IsBuilt) (hendpoint : endpoint? request = none)
    (hdecision : (s.routed fresh request state).1.decision = .passThrough) :
    HasOwnFields (s.reply vitals fresh request state) (idFor fresh request) none ↔
      s.LeavesOwnFields fresh request state (idFor fresh request) := by
  let path := (Request.ofUri request.uri request.headers).path
  have htarget : s.target? fresh request state = some path := by rw [target?, hdecision]; rfl
  unfold LeavesOwnFields
  simp only [hdecision]
  cases hpage : s.pageFor? fresh request state path with
  | none =>
    refine iff_of_true (hasOwnFields_of_missing hbuilt htarget hpage) fun page hsome => ?_
    cases hsome
  | some page =>
    rw [hasOwnFields_of_page_iff hbuilt hendpoint htarget hpage, hdecision]
    simp only [Option.mem_some_iff, forall_eq']
    rfl

/-- A path that was chosen must be put into a page. -/
theorem hasOwnFields_of_served_iff (hbuilt : s.chain.IsBuilt) (hendpoint : endpoint? request = none)
    {path : String} (hdecision : (s.routed fresh request state).1.decision = .serve path) :
    HasOwnFields (s.reply vitals fresh request state) (idFor fresh request) (some path) ↔
      s.LeavesOwnFields fresh request state (idFor fresh request) := by
  have htarget : s.target? fresh request state = some path := by rw [target?, hdecision]; rfl
  unfold LeavesOwnFields
  simp only [hdecision]
  cases hpage : s.pageFor? fresh request state path with
  | none =>
    have hnone : HasOwnFields (s.reply vitals fresh request state) (idFor fresh request) none :=
      hasOwnFields_of_missing hbuilt htarget hpage
    refine iff_of_false (fun h => ?_) ?_
    · exact List.cons_ne_nil _ _ (h.served.symm.trans hnone.served)
    · rintro ⟨page, hsome, -⟩
      cases hsome
  | some page =>
    rw [hasOwnFields_of_page_iff hbuilt hendpoint htarget hpage, hdecision]
    simp only [Option.mem_some_iff, exists_eq_left']
    refine and_congr_right fun _ => ?_
    by_cases hvalue : path.toList.all Headers.isValueChar = true
    · exact iff_of_true (if_pos hvalue) (Or.inl (List.all_eq_true.1 hvalue))
    · have hnot : ¬ ∀ c ∈ path.toList, Headers.isValueChar c = true := by
        rwa [← List.all_eq_true]
      rw [show Decision.isServe (.serve path) = true from rfl, Bool.true_and, if_neg hvalue,
        or_iff_right hnot]
      rfl

/-- **A reply has the fields of the gateway just if the page server leaves them to it.**  Either way
the request is named to the page server, and in every fault. -/
theorem own_fields_iff (vitals : Vitals) (hbuilt : s.chain.IsBuilt)
    (hid : idOf? request = some id) :
    s.NamesRequest vitals fresh request state id ∧
      (HasOwnFields (s.reply vitals fresh request state) id (s.chosen? fresh request state) ↔
        (endpoint? request = none → s.LeavesOwnFields fresh request state id)) := by
  obtain rfl : idFor fresh request = id := by rw [idFor, hid, Option.getD_some]
  refine ⟨s.namesRequest vitals fresh request state hbuilt, ?_⟩
  unfold chosen?
  cases hendpoint : endpoint? request with
  | some endpoint =>
    refine iff_of_true (hasOwnFields_of_no_page hbuilt fun h => ?_) fun h => ?_
    · cases hendpoint.symm.trans h
    · cases h
  | none =>
    cases hdecision : (s.routed fresh request state).1.decision with
    | passThrough =>
      exact (hasOwnFields_of_passed_iff hbuilt hendpoint hdecision).trans
        (imp_iff_right rfl).symm
    | serve path =>
      exact (hasOwnFields_of_served_iff hbuilt hendpoint hdecision).trans
        (imp_iff_right rfl).symm
    | redirect location status =>
      have hnowhere : s.target? fresh request state = none := by rw [target?, hdecision]; rfl
      refine iff_of_true (hasOwnFields_of_no_page hbuilt fun _ target htarget => ?_) fun _ => ?_
      · cases hnowhere.symm.trans htarget
      · rw [LeavesOwnFields, hdecision]
        trivial

/-- Of an application, the stages attach the identifier to all pages but those under exempt
paths. -/
theorem isStamped_iff {profile : Routing.Profile} {resolver : Session.Resolver}
    {backend : Registration.Backend} {now : Nat}
    (hchain : s.chain = profile.chain resolver backend now)
    (hstays : (s.routed fresh request state).1.decision.isRedirect = false) :
    s.IsStamped fresh request state ↔
      (profile.gate resolver).isExempt (.ofUri request.uri request.headers) = false := by
  rw [routed, hchain] at hstays
  rw [IsStamped, routed, hchain, Routing.Profile.getAll_requestId_start hstays]
  cases (profile.gate resolver).isExempt (.ofUri request.uri request.headers) with
  | true | false => simp

/-- A page with an identifier and a path of its own. -/
def forgedPage : Http.Reply where
  status := .ok
  headers := (Headers.empty.append requestIdHeader (Text.bytes "forged")).append servedPathHeader
    (Text.bytes "/forged")

/-- A request that brings an identifier along, in capital letters. -/
def namedRequest (path : String) : Http.Incoming :=
  { bareRequest path with
    headers := Headers.empty.append requestIdHeader
      (Text.bytes "0190163D-8694-739B-AEA5-966C26F8AD91") }

/-- The identifier. -/
def namedId : RequestId := ⟨0x0190163d8694739baea5966c26f8ad91⟩

/-- A gateway for an industry user, with a page server. -/
def adminService (pages : Http.Peer) : Service :=
  withChain plainConfig (adminChain Routing.Profile.industryUser) pages

theorem own_fields_iff_contacts :
    idOf? (namedRequest "/administration/contacts") = some namedId ∧
      HasOwnFields ((adminService (replying forgedPage)).reply {} ⟨1⟩
          (namedRequest "/administration/contacts") {}) namedId
        (some "/administration/bceidbusiness/industry_user/contacts") := by
  have hid : idOf? (namedRequest "/administration/contacts") = some namedId := by decide +kernel
  have hendpoint : endpoint? (namedRequest "/administration/contacts") = none := by decide
  have hdecision : ((adminService (replying forgedPage)).routed ⟨1⟩
      (namedRequest "/administration/contacts") {}).1.decision =
        .serve "/administration/bceidbusiness/industry_user/contacts" := by decide +kernel
  have hpage : (adminService (replying forgedPage)).pageFor? ⟨1⟩
      (namedRequest "/administration/contacts") {}
      "/administration/bceidbusiness/industry_user/contacts" = some forgedPage := by decide +kernel
  have hchosen : (adminService (replying forgedPage)).chosen? ⟨1⟩
      (namedRequest "/administration/contacts") {} =
        some "/administration/bceidbusiness/industry_user/contacts" := by
    rw [chosen?, hendpoint, hdecision]
  refine ⟨hid, ?_⟩
  rw [← hchosen]
  refine (own_fields_iff {} (Routing.Profile.isBuilt _ _ _ _) hid).2.2 fun _ => ?_
  rw [LeavesOwnFields, hdecision]
  refine ⟨forgedPage, hpage, Or.inl ?_, Or.inl (List.all_eq_true.1 (by decide +kernel))⟩
  exact (isStamped_iff rfl (by rw [hdecision]; rfl)).2 (by decide +kernel)

/-- Under an exempt path both fields of a page go to the caller; and what tells of a fault does not
name the path that was chosen. -/
theorem fields_forged :
    idOf? (namedRequest "/_next/app.js") = some namedId ∧
      ((adminService (replying forgedPage)).routed ⟨1⟩ (namedRequest "/_next/app.js")
        {}).1.decision = .passThrough ∧
      ((adminService (replying forgedPage)).reply {} ⟨1⟩ (namedRequest "/_next/app.js")
        {}).headers.getAll requestIdHeader = [Text.bytes "forged"] ∧
      ((adminService (replying forgedPage)).reply {} ⟨1⟩ (namedRequest "/_next/app.js")
        {}).headers.getAll servedPathHeader = [Text.bytes "/forged"] ∧
      ((adminService .unreachable).routed ⟨1⟩ (namedRequest "/administration/contacts")
        {}).1.decision = .serve "/administration/bceidbusiness/industry_user/contacts" ∧
      ((adminService .unreachable).reply {} ⟨1⟩ (namedRequest "/administration/contacts")
        {}).headers.getAll servedPathHeader = [] := by
  refine ⟨?_, ?_, ?_, ?_, ?_, ?_⟩ <;> decide +kernel

end Service
end Gateway
end Gatehouse
