import Gatehouse.Proofs.Gateway.OwnFields

/-!
# What the stages attach

The header fields that the stages attach to their answer are meant for the caller, whatever becomes
of the request.  A redirect and a page get them: they are put in place of the fields of the same
names, as the last thing that is done to either.  But a fault is answered as it is.  If the body of
a request cannot be read, or no page comes back, what the stages have attached is lost, unless a
fault has it anyway: it says that its body is JSON, and it names the request.

* `carries_merge` — whatever is dressed by the stages carries what they attach.
* `carries_errorReply_iff` — what a fault carries of it.
* `Service.carries_iff` — which replies carry what the stages attach.
* `Service.attached_lost` — a page that may not be stored, and a fault in its place that may.
-/

set_option autoImplicit false

namespace Gatehouse

theorem Headers.getAll_ne_nil_of_mem_names {h : Headers} {name : String} (hname : name ∈ h.names) :
    h.getAll name ≠ [] := by
  obtain ⟨f, hf, rfl⟩ := List.mem_map.1 hname
  exact List.ne_nil_of_mem (List.mem_filterMap.2 ⟨f, hf, if_pos rfl⟩)

namespace Gateway

variable {id : RequestId} {extra : Headers} {reply : Http.Reply}

/-! ## Carrying -/

/-- A reply carries some header fields: under each of their names the value that comes last, and no
other. -/
def Carries (reply : Http.Reply) (extra : Headers) : Prop :=
  ∀ name ∈ extra.names, reply.headers.getAll name = (extra.getAll name).getLast?.toList

/-- A reply that is dressed with some fields carries them. -/
theorem carries_merge (reply : Http.Reply) (extra : Headers) :
    Carries (merge reply extra) extra := by
  intro name hname
  rw [getAll_merge]
  cases hlast : (extra.getAll name).getLast? with
  | none =>
    exact absurd (List.getLast?_eq_none_iff.1 hlast) (Headers.getAll_ne_nil_of_mem_names hname)
  | some value => rfl

/-- The identifier that a reply is given in the end takes the place of nothing that it carries. -/
theorem Carries.addIfMissing (h : Carries reply extra) (value : List UInt8) :
    Carries (addIfMissing reply requestIdHeader value) extra := by
  intro name hname
  by_cases hid : requestIdHeader = name
  · subst hid
    have hthere : reply.headers.getAll requestIdHeader ≠ [] := by
      rw [h _ hname, Ne, Option.toList_eq_nil_iff, List.getLast?_eq_none_iff]
      exact Headers.getAll_ne_nil_of_mem_names hname
    rw [Gateway.addIfMissing, if_pos ((Headers.contains_iff _ _).2 hthere)]
    exact h _ hname
  · rw [getAll_addIfMissing_of_ne reply hid]
    exact h name hname

/-! ## Faults -/

/-- The values that every fault has under a name. -/
def faultValues (id : RequestId) (name : String) : List (List UInt8) :=
  if name = "content-type" then [Text.bytes "application/json"]
  else if name = requestIdHeader then [Text.bytes id.render]
  else []

theorem getAll_errorReply (e : GatewayError) (id : RequestId) (name : String) :
    (addIfMissing (errorReply e id) requestIdHeader (Text.bytes id.render)).headers.getAll name =
      faultValues id name := by
  have htold := tellsOf_errorReply e id
  rw [faultValues]
  by_cases htype : name = "content-type"
  · rw [if_pos htype, htype]
    exact htold.contentType
  · rw [if_neg htype]
    by_cases hid : name = requestIdHeader
    · rw [if_pos hid, hid]
      exact htold.id
    · rw [if_neg hid, getAll_addIfMissing_of_ne _ (Ne.symm hid)]
      exact Headers.getAll_insert_of_ne Headers.empty (Ne.symm htype) _

/-- A fault carries just those fields that it has anyway. -/
theorem carries_errorReply_iff (e : GatewayError) :
    Carries (addIfMissing (errorReply e id) requestIdHeader (Text.bytes id.render)) extra ↔
      ∀ name ∈ extra.names, faultValues id name = (extra.getAll name).getLast?.toList := by
  rw [Carries]
  simp only [getAll_errorReply]

namespace Service

variable {s : Service} {vitals : Vitals} {fresh : RequestId} {request : Http.Incoming}
  {state : State}

/-! ## Replies -/

/-- What the stages attach to their answer to a request. -/
def attached (s : Service) (fresh : RequestId) (request : Http.Incoming) (state : State) :
    Headers :=
  (s.routed fresh request state).1.headers

/-- The page that is to be asked for comes back, if one is to be asked for. -/
def HasPage (s : Service) (fresh : RequestId) (request : Http.Incoming) (state : State) : Prop :=
  ∀ target ∈ s.target? fresh request state, ∃ page,
    s.pageFor? fresh request state target = some page

/-- **A reply carries what the stages attach just if the caller is sent away or a page comes back,**
or they attach nothing but what a fault has anyway. -/
theorem carries_iff (vitals : Vitals) (hendpoint : endpoint? request = none) :
    Carries (s.reply vitals fresh request state) (s.attached fresh request state) ↔
      s.HasPage fresh request state ∨
        ∀ name ∈ (s.attached fresh request state).names,
          faultValues (idFor fresh request) name =
            ((s.attached fresh request state).getAll name).getLast?.toList := by
  have hown := not_own_of_endpoint hendpoint
  cases htarget : s.target? fresh request state with
  | none =>
    refine iff_of_true ?_ (Or.inl fun target hsome => ?_)
    · cases hdecision : (s.routed fresh request state).1.decision with
      | redirect location status =>
        rw [reply_of_redirect vitals hown hdecision]
        exact (carries_merge _ _).addIfMissing _
      | serve | passThrough =>
        rw [target?, hdecision] at htarget
        cases htarget
    · rw [htarget] at hsome
      cases hsome
  | some target =>
    cases hpage : s.pageFor? fresh request state target with
    | some page =>
      refine iff_of_true ?_ (Or.inl fun other hother => ?_)
      · rw [reply_of_page vitals hown htarget hpage]
        exact (carries_merge _ _).addIfMissing _
      · obtain rfl : target = other := Option.some.inj (htarget.symm.trans hother)
        exact ⟨page, hpage⟩
    | none =>
      have hmissing : ¬ s.HasPage fresh request state := by
        intro h
        obtain ⟨page, hsome⟩ := h target htarget
        cases hpage.symm.trans hsome
      obtain ⟨e, he⟩ := reply_of_missing vitals hendpoint htarget hpage
      rw [he, carries_errorReply_iff, or_iff_right hmissing]

/-- A page that wants to be stored comes back, and goes to the caller as one that may not be. -/
theorem carries_iff_stored :
    let page : Http.Reply :=
      { status := .ok, headers := Headers.empty.append "cache-control" (Text.bytes "max-age=60") }
    let s := adminService (replying page)
    let request := namedRequest "/administration/contacts"
    endpoint? request = none ∧ Carries (s.reply {} ⟨1⟩ request {}) (s.attached ⟨1⟩ request {}) ∧
      (s.attached ⟨1⟩ request {}).names = ["cache-control", requestIdHeader] := by
  intro page s request
  have hendpoint : endpoint? request = none := by decide
  have htarget : s.target? ⟨1⟩ request {} =
      some "/administration/bceidbusiness/industry_user/contacts" := by decide +kernel
  have hpage : s.pageFor? ⟨1⟩ request {} "/administration/bceidbusiness/industry_user/contacts" =
      some page := by decide +kernel
  refine ⟨hendpoint, (carries_iff {} hendpoint).2 (Or.inl fun target hsome => ?_),
    by decide +kernel⟩
  rw [htarget] at hsome
  obtain rfl := Option.some.inj hsome
  exact ⟨page, hpage⟩

/-- If that page does not come back, nothing in the fault keeps it from being stored. -/
theorem attached_lost :
    let s := adminService .unreachable
    let request := namedRequest "/administration/contacts"
    endpoint? request = none ∧
      (s.attached ⟨1⟩ request {}).getAll "cache-control" = [Text.bytes "no-store"] ∧
      (s.reply {} ⟨1⟩ request {}).headers.getAll "cache-control" = [] ∧
      ¬ Carries (s.reply {} ⟨1⟩ request {}) (s.attached ⟨1⟩ request {}) := by
  intro s request
  have hattached :
      (s.attached ⟨1⟩ request {}).getAll "cache-control" = [Text.bytes "no-store"] := by
    decide +kernel
  have hlost : (s.reply {} ⟨1⟩ request {}).headers.getAll "cache-control" = [] := by decide +kernel
  refine ⟨by decide, hattached, hlost, fun h => ?_⟩
  have hcarried := h "cache-control" (by decide +kernel)
  rw [hattached, hlost] at hcarried
  cases hcarried

end Service
end Gateway
end Gatehouse
