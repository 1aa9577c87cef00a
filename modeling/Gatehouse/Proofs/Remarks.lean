import Gatehouse.Trace

/-!
# Remarks

Log lines and measurements only tell of something.  The rest of a trace is what the gateway did to
others: the calls to the backend, and the requests to the page server.  Two runs that do the same
things seldom log the same lines, so most statements about a run are about that rest.

* `Remarks` — events that only tell of something.
* `Trace.Alike` — two traces with the same calls and the same requests; `Trace.Alike.append` says
  that remarks make no difference.
* `Trace.Remarked` — a trace that goes on with remarks, and what is measured in them.
-/

set_option autoImplicit false

namespace Gatehouse

/-- Events that only tell of something. -/
def Remarks (events : List Event) : Prop :=
  ∀ e ∈ events, e.isRemark = true

namespace Remarks

variable {events : List Event}

theorem line (line : LogLine) : Remarks [.logged line] := by
  simp [Remarks, Event.isRemark]

theorem measurement (m : Measurement) : Remarks [.measured m] := by
  simp [Remarks, Event.isRemark]

/-- A view that shows neither log lines nor measurements shows nothing of remarks. -/
theorem filterMap_eq_nil {α : Type} {view : Event → Option α} (h : Remarks events)
    (hline : ∀ line, view (.logged line) = none) (hm : ∀ m, view (.measured m) = none) :
    events.filterMap view = [] := by
  rw [List.filterMap_eq_nil_iff]
  intro e he
  have hr := h e he
  cases e with
  | logged line => exact hline line
  | measured m => exact hm m
  | asked | answered | forwarded => simp [Event.isRemark] at hr

theorem asked (h : Remarks events) : Trace.asked ⟨events⟩ = [] :=
  h.filterMap_eq_nil (fun _ => rfl) (fun _ => rfl)

theorem answered (h : Remarks events) : Trace.answered ⟨events⟩ = [] :=
  h.filterMap_eq_nil (fun _ => rfl) (fun _ => rfl)

theorem forwarded (h : Remarks events) : Trace.forwarded ⟨events⟩ = [] :=
  h.filterMap_eq_nil (fun _ => rfl) (fun _ => rfl)

end Remarks

namespace Trace

@[simp] theorem append_append (t : Trace) (events more : List Event) :
    (t.append events).append more = t.append (events ++ more) := by
  simp [append]

@[simp] theorem append_nil (t : Trace) : t.append [] = t := by
  simp [append]

/-- The same calls and the same requests to the page server, in the same order. -/
structure Alike (t t' : Trace) : Prop where
  asked : t.asked = t'.asked
  answered : t.answered = t'.answered
  forwarded : t.forwarded = t'.forwarded

namespace Alike

variable {t t' t'' : Trace}

theorem refl (t : Trace) : t.Alike t :=
  ⟨rfl, rfl, rfl⟩

theorem trans (h : t.Alike t') (h' : t'.Alike t'') : t.Alike t'' :=
  ⟨h.asked.trans h'.asked, h.answered.trans h'.answered, h.forwarded.trans h'.forwarded⟩

/-- Remarks make no difference. -/
theorem append (h : t.Alike t') {events : List Event} (hr : Remarks events) :
    t.Alike (t'.append events) where
  asked := by rw [asked_append, hr.asked, List.append_nil, h.asked]
  answered := by rw [answered_append, hr.answered, List.append_nil, h.answered]
  forwarded := by rw [forwarded_append, hr.forwarded, List.append_nil, h.forwarded]

/-- The same events after traces that are alike. -/
theorem append_both (h : t.Alike t') (events : List Event) :
    (t.append events).Alike (t'.append events) where
  asked := by rw [asked_append, asked_append, h.asked]
  answered := by rw [answered_append, answered_append, h.answered]
  forwarded := by rw [forwarded_append, forwarded_append, h.forwarded]

end Alike

/-- A trace goes on with remarks as another, and among these are some measurements. -/
def Remarked (t t' : Trace) (ms : List Measurement) : Prop :=
  ∃ events, t' = t.append events ∧ Remarks events ∧ measurements ⟨events⟩ = ms

namespace Remarked

variable {t t' : Trace} {ms : List Measurement}

theorem refl (t : Trace) : t.Remarked t [] :=
  ⟨[], (append_nil t).symm, by simp [Remarks], rfl⟩

theorem line (h : t.Remarked t' ms) (line : LogLine) :
    t.Remarked (t'.append [.logged line]) ms := by
  obtain ⟨events, rfl, hr, rfl⟩ := h
  refine ⟨events ++ [.logged line], append_append t events _, ?_, ?_⟩
  · simpa [Remarks, Event.isRemark, or_imp, forall_and] using hr
  · simp [measurements]

theorem measurement (h : t.Remarked t' ms) (m : Measurement) :
    t.Remarked (t'.append [.measured m]) (ms ++ [m]) := by
  obtain ⟨events, rfl, hr, rfl⟩ := h
  refine ⟨events ++ [.measured m], append_append t events _, ?_, ?_⟩
  · simpa [Remarks, Event.isRemark, or_imp, forall_and] using hr
  · simp [measurements]

theorem alike (h : t.Remarked t' ms) : t.Alike t' := by
  obtain ⟨events, rfl, hr, -⟩ := h
  exact (Alike.refl t).append hr

end Remarked
end Trace
end Gatehouse
