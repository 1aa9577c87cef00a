import Gatehouse.Proofs.Gateway.OwnFields

/-!
# Fields that belong to a connection

Some header fields are meant for whoever is at the other end of the connection and for nobody behind
it.  A message says itself which these are: beside those that always are, its `connection` fields
list the names of others, between commas, and a `trailer` field is about how this one message is
sent.

The gateway does not read what a message says.  It takes out the names of a fixed list, which has
`trailers` where the field is called `trailer`.  So what a message says is heeded as long as it adds
nothing to the list: no name that it has, and none that the gateway puts in, may be one that it
lists.

* `isRidOf_iff_of_mem_names` — what filtering by the list comes to.
* `Service.mem_names_outgoing`, `Service.mem_names_reply` — the names in a request that is sent on,
  and in a reply that goes back.
* `Service.hop_by_hop_iff` — when neither has a name that belongs to the connection it came over.
* `Service.hop_by_hop_forwarded` — messages that say more than the list.
-/

set_option autoImplicit false

namespace Gatehouse

/-! ## What a message says about its connection -/

namespace Headers

/-- The bytes that may stand around a name in a list of names. -/
def isGapByte (b : UInt8) : Bool :=
  b == 0x20 || b == 0x09

/-- A byte with capital letters made small. -/
def smallByte (b : UInt8) : UInt8 :=
  if 0x41 ≤ b && b ≤ 0x5A then b + 0x20 else b

/-- The names in a list of names between commas, in small letters. -/
def listedNames (value : List UInt8) : List (List UInt8) :=
  (Text.pieces (· == 0x2C) value).map fun piece =>
    ((((piece.dropWhile isGapByte).reverse).dropWhile isGapByte).reverse).map smallByte

/-- The names that the `connection` fields of a message list. -/
def connectionOptions (message : Headers) : List (List UInt8) :=
  (message.getAll "connection").flatMap listedNames

end Headers

namespace Gateway

/-- A name belongs to the connection that a message came over: it always does, or it is the one that
tells of the message's trailer, or the message says so. -/
def IsHopByHop (message : Headers) (name : String) : Prop :=
  isConnectionField name = true ∨ Text.lowerAscii name = "trailer" ∨
    Text.bytes (Text.lowerAscii name) ∈ message.connectionOptions

instance (message : Headers) (name : String) : Decidable (IsHopByHop message name) :=
  inferInstanceAs (Decidable (_ ∨ _ ∨ _))

/-- A name that belongs to the connection of a message, but is not one that is taken out. -/
def IsMissed (message : Headers) (name : String) : Prop :=
  IsHopByHop message name ∧ isConnectionField name = false

instance (message : Headers) (name : String) : Decidable (IsMissed message name) :=
  inferInstanceAs (Decidable (_ ∧ _))

/-- There is no name among some header fields that belongs to the connection of a message. -/
def IsRidOf (headers message : Headers) : Prop :=
  ∀ name ∈ headers.names, ¬ IsHopByHop message name

/-- **Header fields that are filtered by the list, save for some that are put in, are rid of
everything just if nothing is missed** among the names that there were and those that are put in. -/
theorem isRidOf_iff_of_mem_names {headers message : Headers} {put kept : List String}
    (hnames : ∀ name, name ∈ headers.names ↔
      name ∈ put ∨ isConnectionField name = false ∧ name ∈ kept)
    (hput : ∀ name ∈ put, isConnectionField name = false) :
    IsRidOf headers message ↔ ∀ name ∈ put ++ kept, ¬ IsMissed message name := by
  constructor
  · rintro h name hname ⟨hhop, hunlisted⟩
    refine h name ((hnames name).2 ?_) hhop
    exact (List.mem_append.1 hname).imp_right fun hkept => ⟨hunlisted, hkept⟩
  · intro h name hname hhop
    rcases (hnames name).1 hname with hmem | ⟨hunlisted, hmem⟩
    · exact h name (List.mem_append_left kept hmem) ⟨hhop, hput name hmem⟩
    · exact h name (List.mem_append_right put hmem) ⟨hhop, hunlisted⟩

/-! ## The names that there are -/

theorem mem_names_withoutConnectionFields {h : Headers} {name : String} :
    name ∈ (withoutConnectionFields h).names ↔ isConnectionField name = false ∧ name ∈ h.names := by
  simp only [Headers.names, withoutConnectionFields, List.mem_map, List.mem_filter,
    Bool.not_eq_true']
  constructor
  · rintro ⟨f, ⟨hf, hunlisted⟩, rfl⟩
    exact ⟨hunlisted, f, hf, rfl⟩
  · rintro ⟨hunlisted, f, hf, rfl⟩
    exact ⟨f, ⟨hf, hunlisted⟩, rfl⟩

theorem mem_names_merge {reply : Http.Reply} {extra : Headers} {name : String} :
    name ∈ (merge reply extra).headers.names ↔ name ∈ extra.names ∨ name ∈ reply.headers.names :=
  Headers.mem_names_foldl_insert

theorem mem_names_addIfMissing {reply : Http.Reply} {name other : String} {value : List UInt8} :
    other ∈ (addIfMissing reply name value).headers.names ↔
      other = name ∨ other ∈ reply.headers.names := by
  unfold addIfMissing
  split
  · next hthere =>
    obtain ⟨f, hf, hname⟩ := List.any_eq_true.1 hthere
    refine (or_iff_right_of_imp ?_).symm
    rintro rfl
    exact List.mem_map.2 ⟨f, hf, beq_iff_eq.1 hname⟩
  · exact Headers.mem_names_insert

/-- The names that are put into a page that was asked for under a path. -/
def putNames (target : String) (isChosen : Bool) (extra : Headers) : List String :=
  extra.names ++
    if isChosen && target.toList.all Headers.isValueChar then [servedPathHeader] else []

theorem mem_names_handedOn {page : Http.Reply} {target : String} {isChosen : Bool} {extra : Headers}
    {name : String} :
    name ∈ (handedOn page target isChosen extra).headers.names ↔
      name ∈ putNames target isChosen extra ∨
        isConnectionField name = false ∧ name ∈ page.headers.names := by
  have hreceived : name ∈ (Forwarder.received page).headers.names ↔
      isConnectionField name = false ∧ name ∈ page.headers.names :=
        mem_names_withoutConnectionFields
  rw [handedOn, mem_names_merge, Headers.value?_bytes, putNames, List.mem_append, or_assoc,
    ← hreceived]
  refine or_congr_right ?_
  cases target.toList.all Headers.isValueChar with
  | false => simp
  | true =>
    cases isChosen with
    | false => simp
    | true => simp [Headers.mem_names_insert]

namespace Service

variable {s : Service} {vitals : Vitals} {fresh : RequestId} {request : Http.Incoming}
  {state : State} {id : RequestId} {target : String} {out : Http.Outgoing} {page : Http.Reply}

/-- What a URL brings is not on the list. -/
theorem isConnectionField_of_mem_loginFields {url : Url} {name : String}
    (h : name ∈ (Http.loginFields url).names) : isConnectionField name = false := by
  rw [Headers.eq_of_mem_loginFields h]
  decide

theorem mem_names_outgoing (h : s.outgoing? request id target = some out) :
    ∃ url, Url.parse (s.addressOf request target) = .ok url ∧
      ∀ name, name ∈ out.headers.names ↔ name ∈ (Http.loginFields url).names ++ [requestIdHeader] ∨
        isConnectionField name = false ∧ name ∈ (request.headers.remove "host").names := by
  obtain ⟨url, hparse, -, -, -, hheaders⟩ := of_outgoing h
  refine ⟨url, hparse, fun name => ?_⟩
  rw [hheaders, Headers.mem_names_replacedBy, mem_names_withoutConnectionFields,
    Headers.mem_names_insert, List.mem_append, List.mem_singleton, and_or_left, or_assoc]
  refine or_congr_right (or_congr_left (and_iff_right_of_imp ?_))
  rintro rfl
  decide

theorem mem_names_reply (vitals : Vitals) (hendpoint : endpoint? request = none)
    (htarget : s.target? fresh request state = some target)
    (hpage : s.pageFor? fresh request state target = some page) (name : String) :
    name ∈ (s.reply vitals fresh request state).headers.names ↔
      name ∈ requestIdHeader :: putNames target (s.routed fresh request state).1.decision.isServe
          (s.routed fresh request state).1.headers ∨
        isConnectionField name = false ∧ name ∈ page.headers.names := by
  rw [reply_of_page vitals (not_own_of_endpoint hendpoint) htarget hpage, mem_names_addIfMissing,
    mem_names_handedOn, List.mem_cons, or_assoc]

/-- Nothing that is put in is on the list. -/
theorem isConnectionField_of_mem_putNames (hbuilt : s.chain.IsBuilt) (isChosen : Bool)
    {name : String} (h : name ∈ requestIdHeader ::
      putNames target isChosen (s.routed fresh request state).1.headers) :
    isConnectionField name = false := by
  refine Bool.eq_false_iff.2 fun hlisted => not_own_of_isConnectionField hlisted ?_
  rw [putNames, List.mem_cons, List.mem_append] at h
  rcases h with rfl | hattached | hserved
  · decide
  · have hstages := hbuilt.names_subset _ _ _ hattached
    simp only [Routing.attachedNames, List.mem_cons, List.not_mem_nil, or_false] at hstages
    obtain rfl | rfl := hstages
    all_goals decide
  · split at hserved
    · obtain rfl := List.mem_singleton.1 hserved
      decide
    · cases hserved

/-! ## Both ways -/

/-- **Whatever belongs to a connection stays behind just if the list misses nothing of it:** of a
request, among its names other than the host and those that are put in, and of a page, among its
names and those that are put in.  Of a request to the gateway itself nothing is sent on.  A name and
a password in the URL of the page server are put into whatever is sent there. -/
theorem hop_by_hop_iff (vitals : Vitals) (hbuilt : s.chain.IsBuilt) :
    (∀ endpoint ∈ endpoint? request, ∀ out ∈ s.sent vitals fresh request state,
      ∃ url, Url.parse s.forwarder.pagesUrl = .ok url ∧
        (IsRidOf out.headers request.headers ↔
          ∀ name ∈ (Http.loginFields url).names, ¬ IsMissed request.headers name)) ∧
    (endpoint? request = none → ∀ out ∈ s.sent vitals fresh request state,
      ∃ target ∈ s.target? fresh request state, ∃ url,
        Url.parse (s.addressOf request target) = .ok url ∧
          (IsRidOf out.headers request.headers ↔
            ∀ name ∈ (Http.loginFields url).names ++ [requestIdHeader] ++
                (request.headers.remove "host").names,
              ¬ IsMissed request.headers name)) ∧
    (endpoint? request = none → ∀ target ∈ s.target? fresh request state,
      ∀ page ∈ s.pageFor? fresh request state target,
        (IsRidOf (s.reply vitals fresh request state).headers page.headers ↔
          ∀ name ∈ requestIdHeader :: putNames target
              (s.routed fresh request state).1.decision.isServe
              (s.routed fresh request state).1.headers ++ page.headers.names,
            ¬ IsMissed page.headers name)) := by
  refine ⟨fun endpoint hendpoint out hout => ?_, fun hendpoint out hout => ?_,
    fun hendpoint target htarget page hpage => ?_⟩
  · rw [sent_of_quiet hbuilt.isQuiet, Option.mem_toList, asked_of_own hendpoint, askedBy?] at hout
    split at hout
    · obtain ⟨url, hparse, rfl⟩ := Health.of_probe hout
      refine ⟨url, hparse, forall₂_congr fun name hname => ?_⟩
      rw [IsMissed, isConnectionField_of_mem_loginFields hname]
      exact not_congr (and_iff_left rfl).symm
    · cases hout
  · rw [sent_of_quiet hbuilt.isQuiet, Option.mem_toList, asked_of_app hendpoint] at hout
    obtain ⟨target, htarget, hsent⟩ := Option.bind_eq_some_iff.1 hout
    obtain ⟨url, hparse, hnames⟩ := mem_names_outgoing hsent
    refine ⟨target, htarget, url, hparse, isRidOf_iff_of_mem_names hnames fun name hname => ?_⟩
    rcases List.mem_append.1 hname with hlogin | hid
    · exact isConnectionField_of_mem_loginFields hlogin
    · rw [List.mem_singleton.1 hid]
      decide
  · exact isRidOf_iff_of_mem_names (mem_names_reply vitals hendpoint htarget hpage)
      fun name hname => isConnectionField_of_mem_putNames hbuilt _ hname

/-- A request for an asset that says something about its connection, and has fields of some
names. -/
def connectedRequest (connection : String) (names : List String) : Http.Incoming :=
  { assetRequest with
    headers := names.foldl (fun headers name => headers.append name (Text.bytes "1"))
      (assetRequest.headers.append "connection" (Text.bytes connection)) }

/-- A request and a page that list names, but none that the list misses. -/
theorem hop_by_hop_iff_upgrade :
    let s := ofConfig plainConfig { pages := replying pageWithCookies } 0
    let request := connectedRequest "keep-alive, Upgrade" ["upgrade"]
    s.chain.IsBuilt ∧ (∃ out ∈ s.sent {} ⟨1⟩ request {}, IsRidOf out.headers request.headers) ∧
      s.pageFor? ⟨1⟩ request {} "/_next/app.js" = some pageWithCookies ∧
      IsRidOf (s.reply {} ⟨1⟩ request {}).headers pageWithCookies.headers := by
  intro s request
  have hbuilt : s.chain.IsBuilt := Routing.Profile.isBuilt _ _ _ _
  have hendpoint : endpoint? request = none := by decide
  have htarget : s.target? ⟨1⟩ request {} = some "/_next/app.js" := by decide +kernel
  have hpage : s.pageFor? ⟨1⟩ request {} "/_next/app.js" = some pageWithCookies := by decide +kernel
  have hsent : 0 < (s.sent {} ⟨1⟩ request {}).length := by decide +kernel
  obtain ⟨out, hout⟩ := List.exists_mem_of_length_pos hsent
  obtain ⟨-, hforward, hback⟩ := @hop_by_hop_iff s ⟨1⟩ request {} {} hbuilt
  obtain ⟨-, -, url, -, hrid⟩ := hforward hendpoint out hout
  have hheeded :
      ∀ name ∈ "authorization" :: requestIdHeader :: (request.headers.remove "host").names,
      ¬ IsMissed request.headers name := by decide +kernel
  refine ⟨hbuilt, ⟨out, hout, hrid.2 fun name hname => hheeded name ?_⟩, hpage, ?_⟩
  · rw [List.append_assoc, List.mem_append] at hname
    exact List.mem_cons.2 (hname.imp_left Headers.eq_of_mem_loginFields)
  · exact (hback hendpoint _ htarget _ hpage).2 (by decide +kernel)

/-- A page that lists a name. -/
def chattyPage : Http.Reply where
  status := .ok
  headers := (Headers.empty.append "connection" (Text.bytes "X-Debug")).append "x-debug"
    (Text.bytes "1")
  body := []

/-- What a request lists goes to the page server, and so does the name of the trailer; what a page
lists goes to the caller. -/
theorem hop_by_hop_forwarded :
    let s := ofConfig plainConfig { pages := replying chattyPage } 0
    let request := connectedRequest "close, X-Debug" ["x-debug", "trailer"]
    (∀ name ∈ ["x-debug", "trailer"], IsHopByHop request.headers name) ∧
      ((s.sent {} ⟨1⟩ request {}).map fun out =>
        ["x-debug", "trailer"].map out.headers.getAll) = [[[Text.bytes "1"], [Text.bytes "1"]]] ∧
      IsHopByHop chattyPage.headers "x-debug" ∧
      s.pageFor? ⟨1⟩ request {} "/_next/app.js" = some chattyPage ∧
      (s.reply {} ⟨1⟩ request {}).headers.getAll "x-debug" = [Text.bytes "1"] := by
  refine ⟨?_, ?_, ?_, ?_, ?_⟩ <;> decide +kernel

end Service
end Gateway
end Gatehouse
