import Gatehouse.Proofs.Routing.RuleRedirects
import Gatehouse.Proofs.Url.Forms

/-!
# The page for users who wait

A user who waits to be let in by an operator is sent to a page that says so.  The location of that
page is put together from the record: the identifier of the operator is the last segment of its
path, and the name of the operator is in its query.  The name is written as the value of a form, so
it does not matter what is in it.  The identifier is put into the path as it is.  What stands for
something else in a path does so there too, and a slash, a question mark or a blank in an identifier
makes it the location of another page, or of none.

* `Profile.decision_of_waiting` — who is sent to the page.
* `Profile.recovers_iff` — the record can be read again from a request for the page just if the
  identifier is a segment as it stands, and what is in front of it can be read at all.
* `Profile.recovers_waiting_iff` — the same for the redirect that a caller is given.
* `Profile.identifier_cut_short` — an identifier that is not found again.
-/

set_option autoImplicit false

namespace Gatehouse

open Registration (Reply)

/-- A page below a base starts with a slash. -/
theorem Path.head?_join (base rest : List Char) : (join base rest).head? = some '/' := by
  by_cases hroot : trimEnd base = []
  · rw [join_of_root hroot]
    rfl
  · exact (isNormal_join_of_ne hroot rest).head?

theorem Rule.toList_requestAccessPath (operatorId : String) :
    (requestAccessPath operatorId).toList =
      "/select-operator/received/request-access/".toList ++ operatorId.toList :=
  String.toList_append

namespace Facts

/-- Whether the user of a record waits: access has been asked for and not been granted, or the
operator is only a draft. -/
def IsWaiting (facts : Facts) : Prop :=
  facts.access ≠ .approved ∧ (facts.access = .pending ∨ facts.operator = .draft)

instance (facts : Facts) : Decidable facts.IsWaiting :=
  inferInstanceAs (Decidable (_ ∧ _))

/-- Whether the identifier of the operator is a segment of a path as it stands: there is something
to it, and there are only characters in it that may stand in a path, and no slash. -/
def IsSegment (facts : Facts) : Prop :=
  facts.operatorId ≠ "" ∧ ∀ c ∈ facts.operatorId.toList, Http.Uri.isPathChar c = true ∧ c ≠ '/'

instance (facts : Facts) : Decidable facts.IsSegment :=
  @instDecidableAnd _ _ inferInstance (List.decidableBAll _ _)

end Facts

namespace Routing
namespace Profile

variable {profile : Profile} {resolver : Session.Resolver} {backend : Registration.Backend}
  {now : Nat} {request seen : Request} {id : RequestId} {trace : Trace} {claims : Claims}
  {facts : Facts} {location : String} {status : Http.Status} {rules : Rule.RuleSet}

/-! ## Who is sent there -/

/-- The reply by which a user is judged who selects an operator: the one about the current record,
or the one about the pending record if there is no current one. -/
def settlingReply (profile : Profile) (backend : Registration.Backend) (trace : Trace)
    (userId : String) : Reply :=
  (backend.currentReply trace.asked userId profile.ruleTimeout).orElse
    (backend.pendingReply trace.asked userId profile.ruleTimeout)

/-- The page for a user who waits, with its query. -/
def waitingPage (profile : Profile) (facts : Facts) : String :=
  String.ofList (Path.join profile.basePath.toList
      (Rule.requestAccessPath facts.operatorId).toList) ++
    "?" ++ Url.Form.render [("title", facts.legalName)]

theorem objectionTo_of_waiting (backend : Registration.Backend) (h : facts.IsWaiting) :
    (profile.ruleCheck backend Rule.selectOperator).objectionTo (.record facts) =
      some (profile.waitingPage facts) := by
  rw [objectionTo_selectOperator, if_neg h.1, if_pos h.2]
  rfl

/-- A known caller who is sent away is sent there by the reply about its records. -/
theorem objectionTo_of_redirected {reply : Reply} (hrules : profile.rules = some rules)
    (hclaims : resolver now request = .ok claims)
    (hreply : ((Registration.fetch backend claims.userId rules.sources
      (some profile.ruleTimeout)).run trace).1 = reply.result?)
    (hsent : (profile.chain resolver backend now).decision id trace request =
      .redirect location status) :
    (profile.ruleCheck backend rules).objectionTo reply = some location := by
  have hobjection : (profile.ruleCheck backend rules).objection?
      (((profile.ruleCheck backend rules).facts claims.userId).run trace).1 =
        (profile.ruleCheck backend rules).objectionTo reply :=
    RuleCheck.objection?_eq_objectionTo hreply
  rw [← hobjection]
  exact objection_of_redirected hrules hclaims hsent

/-- **A user who waits is sent to the page for users who do.** -/
theorem decision_of_waiting (hrules : profile.rules = some Rule.selectOperator)
    (hclaims : resolver now request = .ok claims) (hindustry : claims.isIndustry = true)
    (hexempt : (profile.gate resolver).isExempt request = false)
    (hprotected : Rule.selectOperator.protects
      ((profile.ruleCheck backend Rule.selectOperator).appPath request) = true)
    (hreply : profile.settlingReply backend trace claims.userId = .record facts)
    (hwaiting : facts.IsWaiting) :
    (profile.chain resolver backend now).decision id trace request =
      .redirect (profile.waitingPage facts) .temporaryRedirect := by
  have hfetch := Registration.fetch_current_pending backend claims.userId profile.ruleTimeout trace
  have hsettled : ((Registration.fetch backend claims.userId Rule.selectOperator.sources
      (some profile.ruleTimeout)).run trace).1 = (Reply.record facts).result? :=
    hfetch.trans (congrArg Reply.result? hreply)
  rw [decision_of_reply hrules hclaims hindustry hexempt hprotected hsettled,
    objectionTo_of_waiting backend hwaiting]
  rfl

/-! ## Following the redirect -/

/-- The record can be read again from a request: its path is that of the page, with the identifier
of the operator as its last segment, and its query holds the name of the operator and nothing
else. -/
structure Recovers (profile : Profile) (facts : Facts) (seen : Request) : Prop where
  segments : Path.segments seen.path.toList = Path.segments profile.basePath.toList ++
    ["select-operator".toList, "received".toList, "request-access".toList,
      facts.operatorId.toList]
  finalSegment : seen.finalSegment? = some facts.operatorId
  query : seen.query = [("title", facts.legalName)]

/-- The segments of the page, where the identifier is one. -/
theorem segments_requestAccessPath (h : facts.IsSegment) :
    Path.segments (Rule.requestAccessPath facts.operatorId).toList =
      ["select-operator".toList, "received".toList, "request-access".toList,
        facts.operatorId.toList] := by
  have hne : facts.operatorId.toList ≠ [] := fun hnil =>
    h.1 (String.toList_inj.1 (hnil.trans String.toList_empty.symm))
  have hfree : '/' ∉ facts.operatorId.toList := fun hslash => (h.2 '/' hslash).2 rfl
  have htext : (Rule.requestAccessPath facts.operatorId).toList =
      "/select-operator/received/request-access".toList ++ '/' :: facts.operatorId.toList := by
    rw [Rule.requestAccessPath_eq, String.toList_append, String.toList_append, List.append_assoc]
    rfl
  rw [htext, Path.segments_append_cons, Path.segments_of_free hne hfree]
  rfl

/-- The characters of the page may stand in a path if those of the base and of the identifier
may. -/
theorem isPathChar_page (hbase : ∀ c ∈ profile.basePath.toList, Http.Uri.isPathChar c = true)
    (h : facts.IsSegment) : ∀ c ∈ Path.join profile.basePath.toList
      (Rule.requestAccessPath facts.operatorId).toList, Http.Uri.isPathChar c = true := by
  have hslash : Http.Uri.isPathChar '/' = true := by decide
  have hfront :
      "/select-operator/received/request-access/".toList.all Http.Uri.isPathChar = true := by
    decide +kernel
  rw [Path.all_join_iff hslash, Rule.toList_requestAccessPath, List.forall_mem_append]
  exact ⟨hbase, List.all_eq_true.1 hfront, fun c hc => (h.2 c hc).1⟩

/-- The request for a page with a query. -/
theorem recovers_of_page {page : String} (headers : Headers)
    (hsegments : Path.segments page.toList = Path.segments profile.basePath.toList ++
      ["select-operator".toList, "received".toList, "request-access".toList,
        facts.operatorId.toList]) :
    profile.Recovers facts (Request.ofUri
      ⟨none, none, page, some (Url.Form.render [("title", facts.legalName)])⟩ headers) := by
  have hpath : Path.segments (Request.normalized page).toList = Path.segments page.toList := by
    rw [Request.normalized, String.toList_ofList, Path.segments_normalize]
  refine ⟨hpath.trans hsegments, ?_, ?_⟩
  · show (Path.finalSegment? (Request.normalized page).toList).map String.ofList = _
    rw [Path.finalSegment?_eq_getLast?, hpath, hsegments]
    simp
  · show (Url.Form.parse (Url.Form.render [("title", facts.legalName)])).foldl Request.assign [] = _
    rw [Url.Form.parse_render]
    rfl

/-- **The record can be read again from the page for users who wait just if the identifier of the
operator is a segment,** and the page and its query can be read at all: the characters of the base
may stand in a path, and all of it is not too long. -/
theorem recovers_iff (profile : Profile) (facts : Facts) :
    (∃ uri, Http.Uri.parse (profile.waitingPage facts) = .ok uri ∧
        ∀ headers, profile.Recovers facts (Request.ofUri uri headers)) ↔
      facts.IsSegment ∧ (∀ c ∈ profile.basePath.toList, Http.Uri.isPathChar c = true) ∧
        (profile.waitingPage facts).utf8ByteSize ≤ Http.Uri.maxLength := by
  constructor
  · rintro ⟨uri, hparse, hrecovers⟩
    have hclean := Http.Uri.isClean_of_parse hparse
    obtain ⟨hsegments, -, -⟩ := hrecovers {}
    -- whatever is in a segment of the path is a character that was read
    have hchars : ∀ s ∈ Path.segments (Request.ofUri uri {}).path.toList, ∀ c ∈ s,
        Http.Uri.isPathChar c = true := fun s hs c hc =>
      Request.isPathChar_of_mem hclean {} (Text.mem_of_mem_pieces (List.mem_filter.1 hs).1 hc)
    have hlast : facts.operatorId.toList ∈ Path.segments (Request.ofUri uri {}).path.toList := by
      rw [hsegments]
      simp
    obtain ⟨hne, hfree⟩ := Path.of_mem_segments hlast
    refine ⟨⟨?_, fun c hc => ⟨hchars _ hlast c hc, ?_⟩⟩, fun c hc => ?_,
      Http.Uri.length_le_of_parse hparse⟩
    · rintro hempty
      exact hne (by rw [hempty, String.toList_empty])
    · rintro rfl
      exact hfree hc
    · by_cases hslash : c = '/'
      · rw [hslash]
        decide
      · obtain ⟨s, hs, hcs⟩ := Path.exists_segment_of_mem hc hslash
        exact hchars s (by rw [hsegments]; exact List.mem_append_left _ hs) c hcs
  · rintro ⟨hsegment, hbase, hlength⟩
    let page := String.ofList (Path.join profile.basePath.toList
      (Rule.requestAccessPath facts.operatorId).toList)
    have hpage : page.toList = Path.join profile.basePath.toList
        (Rule.requestAccessPath facts.operatorId).toList := String.toList_ofList
    have hparse : Http.Uri.parse (profile.waitingPage facts) =
        .ok ⟨none, none, page, some (Url.Form.render [("title", facts.legalName)])⟩ := by
      refine Http.Uri.parse_append ?_ ?_ (fun c hc => Url.Form.isQueryChar_render hc) hlength
      · rw [hpage]
        exact Path.head?_join _ _
      · rw [hpage]
        exact isPathChar_page hbase hsegment
    refine ⟨_, hparse, fun headers => recovers_of_page headers ?_⟩
    rw [hpage, Path.segments_join, segments_requestAccessPath hsegment]

/-- **A caller who waits is sent to the page for users who do, and following the redirect gives back
the record just if the identifier of the operator is a segment** and the location can be read. -/
theorem recovers_waiting_iff (hrules : profile.rules = some Rule.selectOperator)
    (hclaims : resolver now request = .ok claims) (hindustry : claims.isIndustry = true)
    (hexempt : (profile.gate resolver).isExempt request = false)
    (hprotected : Rule.selectOperator.protects
      ((profile.ruleCheck backend Rule.selectOperator).appPath request) = true)
    (hreply : profile.settlingReply backend trace claims.userId = .record facts)
    (hwaiting : facts.IsWaiting) :
    (profile.chain resolver backend now).decision id trace request =
        .redirect (profile.waitingPage facts) .temporaryRedirect ∧
      ((∃ uri, Http.Uri.parse (profile.waitingPage facts) = .ok uri ∧
          ∀ headers, profile.Recovers facts (Request.ofUri uri headers)) ↔
        facts.IsSegment ∧ (∀ c ∈ profile.basePath.toList, Http.Uri.isPathChar c = true) ∧
          (profile.waitingPage facts).utf8ByteSize ≤ Http.Uri.maxLength) :=
  ⟨decision_of_waiting hrules hclaims hindustry hexempt hprotected hreply hwaiting,
    recovers_iff profile facts⟩

/-- A record of somebody who waits to be let in. -/
def waitingFor (operatorId legalName : String) : Facts :=
  ⟨.pending, operatorId, .approved, legalName⟩

/-- The decision about an industry user with a record who is about to select an operator. -/
def decisionFor (facts : Facts) : Decision :=
  ((forApp .registration).chain (Session.fixed (some industryUser))
      (Registration.Records.backend { current := [("u", facts)] }) 0).decision ⟨1⟩ {}
    (.ofPath "/registration/select-operator" {})

/-- A percent sign in an identifier stands for itself, and everything in a name is found again. -/
theorem recovers_waiting_iff_percent :
    decisionFor (waitingFor "50%25" "A&B = C? #1/2") =
        .redirect ("/registration/select-operator/received/request-access/50%25" ++
          "?title=A%26B+%3D+C%3F+%231%2F2") .temporaryRedirect ∧
      ∃ uri, Http.Uri.parse ("/registration/select-operator/received/request-access/50%25" ++
          "?title=A%26B+%3D+C%3F+%231%2F2") = .ok uri ∧
        ∀ headers, (forApp .registration).Recovers (waitingFor "50%25" "A&B = C? #1/2")
          (Request.ofUri uri headers) := by
  have hpage : (forApp .registration).waitingPage (waitingFor "50%25" "A&B = C? #1/2") =
      "/registration/select-operator/received/request-access/50%25" ++
        "?title=A%26B+%3D+C%3F+%231%2F2" := by decide +kernel
  have hbase : ∀ c ∈ (forApp .registration).basePath.toList, Http.Uri.isPathChar c = true :=
    List.all_eq_true.1 (by decide)
  obtain ⟨hsent, hrecovers⟩ := @recovers_waiting_iff (forApp .registration)
    (Session.fixed (some industryUser)) (Registration.Records.backend
      { current := [("u", waitingFor "50%25" "A&B = C? #1/2")] }) 0
    (.ofPath "/registration/select-operator" {}) ⟨1⟩ {} industryUser
    (waitingFor "50%25" "A&B = C? #1/2") rfl rfl (by decide) (by decide) (by decide) (by decide)
    (by decide)
  rw [hpage] at hsent hrecovers
  exact ⟨hsent, hrecovers.2 ⟨by decide +kernel, hbase, by decide +kernel⟩⟩

/-- A question mark in an identifier ends the path, and the rest of the identifier is taken for the
name of a value. -/
theorem identifier_cut_short :
    (waitingFor "4?2" "Alpha").IsWaiting ∧
      decisionFor (waitingFor "4?2" "Alpha") =
        .redirect "/registration/select-operator/received/request-access/4?2?title=Alpha"
          .temporaryRedirect ∧
      ((Http.Uri.parse
          "/registration/select-operator/received/request-access/4?2?title=Alpha").toOption.map
        fun uri => ((Request.ofUri uri {}).finalSegment?, (Request.ofUri uri {}).query)) =
        some (some "4", [("2?title", "Alpha")]) ∧
      ¬ ∃ uri, Http.Uri.parse
          "/registration/select-operator/received/request-access/4?2?title=Alpha" = .ok uri ∧
        ∀ headers, (forApp .registration).Recovers (waitingFor "4?2" "Alpha")
          (Request.ofUri uri headers) := by
  have hpage : (forApp .registration).waitingPage (waitingFor "4?2" "Alpha") =
      "/registration/select-operator/received/request-access/4?2?title=Alpha" := by decide +kernel
  refine ⟨by decide, by decide +kernel, by decide +kernel, ?_⟩
  rw [← hpage, recovers_iff]
  exact fun h => absurd h.1 (by decide +kernel)

end Profile
end Routing
end Gatehouse
