import Gatehouse.Http.Following
import Gatehouse.Proofs.Http.Fields

/-!
# How requests are sent on

A request that is sent on leaves a trail: the requests that have been sent for it, each of which but
the first follows from the reply to the one before.  `Goes` says how such a trail comes about, case
by case, and it is what a run of `follow` comes to (`Goes.run_follow`).  All else is by induction on
the trail.

* `Goes.time_le` — it ends in time.
* `Goes.length_le` — it has no more than one request and the number of hops.
* `Goes.forall_mem` — what holds of the first request and is kept from each to the next holds of
  all.
* `Goes.personal` — the fields that tell who is asking go to the server that was asked first, and to
  no other; nor to that one again from there.
* `Goes.of_same_replies` — of all that the servers do, only what they reply to these requests has a
  part in it.
-/

set_option autoImplicit false

namespace Gatehouse
namespace Http

variable {peer : Peer} {start next : Url} {hops timeout time : Nat} {before asked : List Outgoing}
  {request : Outgoing} {came : Except ClientError Received × Nat} {name : String}

/-! ## What is sent on -/

/-- A status of a fault sends nowhere. -/
theorem Status.sendsElsewhere_of_le {status : Status} (h : 400 ≤ status.code) :
    status.sendsElsewhere = false := by
  simp only [Status.sendsElsewhere, List.contains_cons, List.contains_nil, Bool.or_eq_false_iff,
    beq_eq_false_iff_ne, and_true]
  omega

theorem sentTo?_of_stays {received : Received} (h : received.status.sendsElsewhere = false)
    (url : Url) : sentTo? url (.ok received) = none := by
  rw [sentTo?, elsewhere?, h]
  rfl

theorem name_ne_referer_of_mem_personalFields (h : name ∈ personalFields) : name ≠ "referer" := by
  rintro rfl
  revert h
  decide

/-- A field that tells who is asking stays as it is on the way to the same server, and goes nowhere
else. -/
theorem getAll_onward_of_personal (hname : name ∈ personalFields) (request : Outgoing)
    (next : Url) :
    (request.onward next).headers.getAll name =
      if request.url.server = next.server then request.headers.getAll name else [] := by
  have hkept : (if request.url.server = next.server then request.headers
      else request.headers.without personalFields).getAll name =
        if request.url.server = next.server then request.headers.getAll name else [] := by
    split
    · rfl
    · rw [Headers.getAll_without, if_pos hname]
  simp only [Outgoing.onward]
  split
  · rw [Headers.getAll_insert_of_ne _ (name_ne_referer_of_mem_personalFields hname).symm, hkept]
  · exact hkept

/-- One name may be new in what is sent on. -/
theorem mem_names_onward (h : name ∈ (request.onward next).headers.names) :
    name = "referer" ∨ name ∈ request.headers.names := by
  have hkept : name ∈ (if request.url.server = next.server then request.headers
      else request.headers.without personalFields).names → name ∈ request.headers.names := by
    split
    · exact id
    · exact Headers.mem_names_of_mem_without
  simp only [Outgoing.onward] at h
  split at h
  · exact (Headers.mem_names_insert.1 h).imp_right hkept
  · exact Or.inr (hkept h)

/-! ## Trails -/

/-- How a request goes that may be sent on a number of times and has some time left, after others
have been sent: which requests are sent for it, and what comes of them in how much time. -/
inductive Goes (peer : Peer) (start : Url) : Nat → Nat → List Outgoing → Outgoing →
    List Outgoing → Except ClientError Received × Nat → Prop
  /-- Nothing comes back, or a reply that sends nowhere. -/
  | ended {hops timeout time : Nat} {before : List Outgoing} {request : Outgoing}
      {result : Except ClientError Received}
      (h : exchange peer timeout before request = (result, time))
      (hstays : sentTo? request.url result = none) :
      Goes peer start hops timeout before request [request]
        (result.mapError (·.seenFrom start), time)
  /-- The reply sends on once too often. -/
  | astray {timeout time : Nat} {before : List Outgoing} {request : Outgoing}
      {result : Except ClientError Received} {next : Url}
      (h : exchange peer timeout before request = (result, time))
      (hsends : sentTo? request.url result = some next) :
      Goes peer start 0 timeout before request [request] (.error (.astray request.url), time)
  /-- The reply sends out of the web. -/
  | foreign {hops timeout time : Nat} {before : List Outgoing} {request : Outgoing}
      {result : Except ClientError Received} {next : Url}
      (h : exchange peer timeout before request = (result, time))
      (hsends : sentTo? request.url result = some next)
      (hscheme : ¬ (next.scheme = "http" ∨ next.scheme = "https")) :
      Goes peer start (hops + 1) timeout before request [request]
        (.error (.unbuildable (some next)), time)
  /-- The reply sends on. -/
  | onward {hops timeout time more : Nat} {before asked : List Outgoing} {request : Outgoing}
      {result last : Except ClientError Received} {next : Url}
      (h : exchange peer timeout before request = (result, time))
      (hsends : sentTo? request.url result = some next)
      (hscheme : next.scheme = "http" ∨ next.scheme = "https")
      (hgoes : Goes peer start hops (timeout - time) (before ++ [request]) (request.onward next)
        asked (last, more)) :
      Goes peer start (hops + 1) timeout before request (request :: asked) (last, time + more)

/-- A run begins with one exchange, which is kept. -/
theorem run_ask_bind {α : Type} (f : Except ClientError Received × Nat → Asking α) :
    (peer.ask timeout request >>= f).run before =
      (f (exchange peer timeout before request)).run (before ++ [request]) := rfl

/-- A reply that sends nowhere is what comes of a request. -/
theorem run_follow_of_stays {result : Except ClientError Received}
    (h : exchange peer timeout before request = (result, time))
    (hstays : sentTo? request.url result = none) :
    (follow peer start hops timeout request).run before =
      ((result.mapError (·.seenFrom start), time), before ++ [request]) := by
  cases hops with
  | zero | succ =>
    rw [follow, run_ask_bind, h]
    simp only [hstays]
    rfl

/-- Every request goes some way. -/
theorem exists_goes (peer : Peer) (start : Url) (hops timeout : Nat) (before : List Outgoing)
    (request : Outgoing) :
    ∃ asked came, Goes peer start hops timeout before request asked came := by
  induction hops generalizing timeout before request with
  | zero =>
    rcases hexchange : exchange peer timeout before request with ⟨result, time⟩
    cases hsends : sentTo? request.url result with
    | none => exact ⟨_, _, .ended hexchange hsends⟩
    | some next => exact ⟨_, _, .astray hexchange hsends⟩
  | succ hops ih =>
    rcases hexchange : exchange peer timeout before request with ⟨result, time⟩
    cases hsends : sentTo? request.url result with
    | none => exact ⟨_, _, .ended hexchange hsends⟩
    | some next =>
      by_cases hscheme : next.scheme = "http" ∨ next.scheme = "https"
      · obtain ⟨asked, ⟨last, more⟩, hgoes⟩ :=
          ih (timeout - time) (before ++ [request]) (request.onward next)
        exact ⟨_, _, .onward hexchange hsends hscheme hgoes⟩
      · exact ⟨_, _, .foreign hexchange hsends hscheme⟩

/-- **The way that a request goes is what its run comes to,** and all that is sent is kept. -/
theorem Goes.run_follow (h : Goes peer start hops timeout before request asked came) :
    (follow peer start hops timeout request).run before = (came, before ++ asked) := by
  induction h with
  | ended h hstays => exact run_follow_of_stays h hstays
  | astray h hsends =>
    rw [follow, run_ask_bind, h]
    simp only [hsends]
    rfl
  | foreign h hsends hscheme =>
    rw [follow, run_ask_bind, h]
    simp only [hsends, if_neg hscheme]
    rfl
  | @onward _ _ _ _ before asked request _ _ _ h hsends hscheme _ ih =>
    rw [follow, run_ask_bind, h]
    simp only [hsends, if_pos hscheme, StateT.run_bind]
    rw [ih, List.append_cons before request asked]
    rfl

/-- What is known of one exchange is known by the time limit. -/
theorem exchange_le (peer : Peer) (timeout : Nat) (before : List Outgoing) (request : Outgoing) :
    (exchange peer timeout before request).2 ≤ timeout := by
  simp only [exchange]
  split
  · exact Nat.le_refl timeout
  · split
    · assumption
    · exact Nat.le_refl timeout

theorem eq_of_singleton_eq_append {α : Type} {a b : α} {front behind : List α}
    (h : [a] = front ++ b :: behind) : front = [] ∧ b = a := by
  cases front with
  | nil => exact ⟨rfl, (List.cons.inj h).1.symm⟩
  | cons c front => simp at h

namespace Goes

/-- What comes of a request is known by the time limit. -/
theorem time_le (h : Goes peer start hops timeout before request asked came) :
    came.2 ≤ timeout := by
  induction h with
  | @ended _ timeout _ before request _ h | @astray timeout _ before request _ _ h
  | @foreign _ timeout _ before request _ _ h =>
    have hle := exchange_le peer timeout before request
    rwa [h] at hle
  | @onward _ timeout time more before _ request _ _ _ h _ _ _ ih =>
    have hle : time ≤ timeout := by
      have hle := exchange_le peer timeout before request
      rwa [h] at hle
    exact Nat.le_trans (Nat.add_le_add_left ih time) (Nat.le_of_eq (Nat.add_sub_cancel' hle))

/-- The first that is sent is the request itself. -/
theorem exists_cons (h : Goes peer start hops timeout before request asked came) :
    ∃ rest, asked = request :: rest := by
  cases h with
  | ended | astray | foreign => exact ⟨[], rfl⟩
  | onward => exact ⟨_, rfl⟩

/-- A request is sent on no more often than it may be. -/
theorem length_le (h : Goes peer start hops timeout before request asked came) :
    asked.length ≤ hops + 1 := by
  induction h with
  | ended | astray | foreign => exact Nat.le_add_left 1 _
  | onward _ _ _ _ ih => exact Nat.succ_le_succ ih

/-- **What holds of the request, and is kept when it is sent on, holds of all that is sent.** -/
theorem forall_mem {P : Outgoing → Prop}
    (h : Goes peer start hops timeout before request asked came) (hfirst : P request)
    (hnext : ∀ out next, P out → P (out.onward next)) : ∀ out ∈ asked, P out := by
  induction h with
  | ended | astray | foreign =>
    intro out hout
    rwa [List.mem_singleton.1 hout]
  | onward _ _ _ _ ih =>
    intro out hout
    rcases List.mem_cons.1 hout with rfl | hout
    · exact hfirst
    · exact ih (hnext _ _ hfirst) out hout

/-- **Who is asking is told to the server that is asked first, for as long as no other has been
asked,** and to nobody else. -/
theorem personal (h : Goes peer start hops timeout before request asked came)
    (hname : name ∈ personalFields) {front behind : List Outgoing} {out : Outgoing}
    (hasked : asked = front ++ out :: behind) :
    out.headers.getAll name =
      if ∀ o ∈ front ++ [out], o.url.server = request.url.server then request.headers.getAll name
      else [] := by
  induction h generalizing front with
  | ended | astray | foreign =>
    obtain ⟨rfl, rfl⟩ := eq_of_singleton_eq_append hasked
    simp
  | @onward _ _ _ _ _ asked request _ _ next _ _ _ hgoes ih =>
    cases front with
    | nil =>
      obtain ⟨rfl, rfl⟩ := List.cons.inj hasked
      simp
    | cons first front =>
      obtain ⟨rfl, hrest⟩ := List.cons.inj hasked
      rw [ih hrest, getAll_onward_of_personal hname]
      show (if ∀ o ∈ front ++ [out], o.url.server = next.server then _ else _) = _
      by_cases hserver : request.url.server = next.server
      · rw [if_pos hserver]
        refine ite_congr (propext ?_) (fun _ => rfl) fun _ => rfl
        rw [← hserver, List.cons_append, List.forall_mem_cons]
        exact (and_iff_right rfl).symm
      · -- the second request has left the server, and nothing comes back with it
        have hleft : request.onward next ∈ front ++ [out] := by
          obtain ⟨rest, rfl⟩ := hgoes.exists_cons
          cases front with
          | nil => exact List.mem_singleton.2 (List.cons.inj hrest).1
          | cons o front => exact List.mem_cons.2 (Or.inl (List.cons.inj hrest).1)
        have hother : ¬ ∀ o ∈ request :: front ++ [out], o.url.server = request.url.server :=
          fun hall => hserver (hall _ (List.mem_cons_of_mem _ hleft)).symm
        rw [if_neg hserver, ite_self, if_neg hother]

/-- **Of all that the servers do, only what they reply to these requests has a part in it.** -/
theorem of_same_replies {peer' : Peer}
    (h : Goes peer start hops timeout before request asked came)
    (hsame : ∀ front out behind, asked = front ++ out :: behind →
      peer'.answer (before ++ front) out = peer.answer (before ++ front) out) :
    Goes peer' start hops timeout before request asked came := by
  have hexchange {before : List Outgoing} {request : Outgoing} (timeout : Nat)
      (hreply : peer'.answer (before ++ []) request = peer.answer (before ++ []) request) :
      exchange peer' timeout before request = exchange peer timeout before request := by
    rw [List.append_nil] at hreply
    rw [exchange, exchange, hreply]
  induction h with
  | ended h hstays =>
    exact .ended ((hexchange _ (hsame [] _ _ rfl)).trans h) hstays
  | astray h hsends =>
    exact .astray ((hexchange _ (hsame [] _ _ rfl)).trans h) hsends
  | foreign h hsends hscheme =>
    exact .foreign ((hexchange _ (hsame [] _ _ rfl)).trans h) hsends hscheme
  | onward h hsends hscheme _ ih =>
    refine .onward ((hexchange _ (hsame [] _ _ rfl)).trans h) hsends hscheme ?_
    refine ih fun front out behind hasked => ?_
    rw [List.append_assoc, List.singleton_append]
    exact hsame (_ :: front) out behind (congrArg (_ :: ·) hasked)

end Goes

end Http
end Gatehouse
