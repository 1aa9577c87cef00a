import Gatehouse.Registration.Backend
import Gatehouse.Proofs.Remarks

/-!
# What a fetch does

`Registration.fetch` puts one call after the other to the backend until there is a record, a
failure, or no time left.  This file says what that comes to without opening it again.

* `run_ask` — one call in closed form: what is written down, and what comes back within the budget.
* `fetch_run` — a fetch looks at nothing of the trace but the calls made before.  So two traces with
  the same calls give the same result, and the same events are added to both; none of these is a
  request to the page server.
* `fetch_answered` — if a fetch ends with a record or without one, its first call was answered.
-/

set_option autoImplicit false

namespace Gatehouse
namespace Registration

variable {backend : Backend} {userId : String}

theorem Answer.isRemarks (answer : Answer) : Remarks answer.events :=
  answer.remarks

/-- One call in closed form. -/
theorem run_ask (backend : Backend) (call : Call) (budget : Budget) (t : Trace) :
    (ask backend call budget).run t =
      match (backend.answer t.asked call).after.bind budget.spend? with
      | none => (none, t.append [.asked call])
      | some rest =>
        (some ((backend.answer t.asked call).result, rest),
          t.append (.asked call :: .answered call :: (backend.answer t.asked call).events)) := by
  simp only [ask, Traced.note, StateT.run_bind, StateT.run_get, StateT.run_modify, pure_bind]
  cases (backend.answer t.asked call).after.bind budget.spend? with
  | none => rfl
  | some rest =>
    simp only [StateT.run_bind, StateT.run_modify, pure_bind, StateT.run_pure,
      Trace.append_append, List.singleton_append]
    rfl

/-- The calls and requests of an answered call. -/
theorem views_answered (call : Call) {events : List Event} (h : Remarks events) :
    Trace.asked ⟨.asked call :: .answered call :: events⟩ = [call] ∧
      Trace.answered ⟨.asked call :: .answered call :: events⟩ = [call] ∧
      Trace.forwarded ⟨.asked call :: .answered call :: events⟩ = [] := by
  refine ⟨?_, ?_, ?_⟩
  · simpa [Trace.asked] using h.asked
  · simpa [Trace.answered] using h.answered
  · simpa [Trace.forwarded] using h.forwarded

/-- **A fetch sees only the calls before it.**  On two traces with the same calls it has the same
result, adds the same events, and sends nothing to the page server. -/
theorem fetch_run (backend : Backend) (userId : String) (sources : List Endpoint) :
    ∀ (budget : Budget) {t t' : Trace}, t.asked = t'.asked →
      ∃ result events, (fetch backend userId sources budget).run t = (result, t.append events) ∧
        (fetch backend userId sources budget).run t' = (result, t'.append events) ∧
        Trace.forwarded ⟨events⟩ = [] := by
  induction sources with
  | nil =>
    intro budget t t' _
    exact ⟨some (.ok none), [], by rw [Trace.append_nil]; rfl, by rw [Trace.append_nil]; rfl, rfl⟩
  | cons e sources ih =>
    intro budget t t' h
    have hask := run_ask backend ⟨e, userId⟩ budget t
    have hask' := run_ask backend ⟨e, userId⟩ budget t'
    rw [← h] at hask'
    generalize ha : backend.answer t.asked ⟨e, userId⟩ = answer at hask hask'
    obtain ⟨hasked, -, hforwarded⟩ := views_answered ⟨e, userId⟩ answer.isRemarks
    simp only [fetch, StateT.run_bind, hask, hask']
    cases hspend : answer.after.bind budget.spend? with
    | none => exact ⟨none, [.asked ⟨e, userId⟩], rfl, rfl, rfl⟩
    | some rest =>
      rcases hresult : answer.result with error | record
      · exact ⟨_, _, rfl, rfl, hforwarded⟩
      · cases record with
        | some facts => exact ⟨_, _, rfl, rfl, hforwarded⟩
        | none =>
          -- the next source is asked on traces that agree again, since the same call was added
          have hagain :
              (t.append (.asked ⟨e, userId⟩ :: .answered ⟨e, userId⟩ :: answer.events)).asked =
              (t'.append (.asked ⟨e, userId⟩ :: .answered ⟨e, userId⟩ :: answer.events)).asked := by
            rw [Trace.asked_append, Trace.asked_append, h]
          obtain ⟨result, events, hrun, hrun', hnone⟩ := ih rest hagain
          refine ⟨result, _, hrun.trans (by rw [Trace.append_append]),
            hrun'.trans (by rw [Trace.append_append]), ?_⟩
          have happend := Trace.forwarded_append
            ⟨.asked ⟨e, userId⟩ :: .answered ⟨e, userId⟩ :: answer.events⟩ events
          rwa [hforwarded, hnone] at happend

/-- If a fetch ends with a record or without one, its first call was answered. -/
theorem fetch_answered {e : Endpoint} {sources : List Endpoint} {budget : Budget} {t t' : Trace}
    {facts : Option Facts}
    (h : (fetch backend userId (e :: sources) budget).run t = (some (.ok facts), t')) :
    ∃ more, t'.answered = t.answered ++ ⟨e, userId⟩ :: more := by
  have hask := run_ask backend ⟨e, userId⟩ budget t
  generalize ha : backend.answer t.asked ⟨e, userId⟩ = answer at hask
  obtain ⟨-, hanswered, -⟩ := views_answered ⟨e, userId⟩ answer.isRemarks
  simp only [fetch, StateT.run_bind, hask] at h
  cases hspend : answer.after.bind budget.spend? with
  | none =>
    rw [hspend] at h
    cases h
  | some rest =>
    rw [hspend] at h
    rcases hresult : answer.result with error | record
    · rw [hresult] at h
      cases h
    · rw [hresult] at h
      cases record with
      | some found =>
        cases h
        exact ⟨[], by rw [Trace.answered_append, hanswered]⟩
      | none =>
        obtain ⟨result, events, hrun, -, -⟩ := fetch_run backend userId sources rest
          (t := t.append (.asked ⟨e, userId⟩ :: .answered ⟨e, userId⟩ :: answer.events)) rfl
        obtain rfl : _ = t' := congrArg Prod.snd (hrun.symm.trans h)
        refine ⟨Trace.answered ⟨events⟩, ?_⟩
        rw [Trace.answered_append, Trace.answered_append, hanswered,
          List.append_assoc, List.singleton_append]

end Registration
end Gatehouse
