import Mathlib.Data.List.Induction
import Mathlib.Data.List.Nodup
import Gatehouse.Proofs.Remarks
import Gatehouse.Telemetry.Registry

/-!
# What a registry counts

A registry shows one series for each combination of labels that has occurred, with the number of
times that it has, and the number of requests that are in the chain.  All of these can be told from
the measurements that are not fetches, and they grow with every measurement by what it counts.

* `Trace.Counts` — a trace goes on as another, and which measurements apart from fetches are added.
* `Registry.decided_eq` — the series of an application add up to the number of its decisions.
* `Registry.inFlight_record` — the gauge rises and falls with the measurements that are recorded.
-/

set_option autoImplicit false

namespace Gatehouse

/-! ## Measurements apart from fetches -/

/-- Whether a measurement is about the backend. -/
def Measurement.isFetch : Measurement → Bool
  | .fetch _ _ _ => true
  | _ => false

namespace Trace

/-- The measurements of a trace that are not about the backend. -/
def counted (t : Trace) : List Measurement :=
  t.measurements.filter fun m => !m.isFetch

@[simp] theorem counted_append (t : Trace) (events : List Event) :
    (t.append events).counted = t.counted ++ counted ⟨events⟩ := by
  simp [counted]

/-- A trace goes on as another, and measures this apart from fetches. -/
def Counts (t t' : Trace) (ms : List Measurement) : Prop :=
  ∃ events, t' = t.append events ∧ counted ⟨events⟩ = ms

namespace Counts

variable {t t' t'' : Trace} {ms ms' : List Measurement}

theorem refl (t : Trace) : t.Counts t [] :=
  ⟨[], (append_nil t).symm, rfl⟩

theorem append (t : Trace) (events : List Event) : t.Counts (t.append events) (counted ⟨events⟩) :=
  ⟨events, rfl, rfl⟩

theorem trans (h : t.Counts t' ms) (h' : t'.Counts t'' ms') : t.Counts t'' (ms ++ ms') := by
  obtain ⟨events, rfl, rfl⟩ := h
  obtain ⟨events', rfl, rfl⟩ := h'
  exact ⟨events ++ events', append_append t events events', counted_append ⟨events⟩ events'⟩

end Counts

/-- Remarks are measured as they are, if none of them is about the backend. -/
theorem Remarked.counts {t t' : Trace} {ms : List Measurement} (h : t.Remarked t' ms)
    (hms : ∀ m ∈ ms, m.isFetch = false) : t.Counts t' ms := by
  obtain ⟨events, rfl, -, rfl⟩ := h
  exact ⟨events, rfl, List.filter_eq_self.2 fun m hm => by rw [hms m hm]; rfl⟩

end Trace

namespace Registry

variable {r : Registry} {ms : List Measurement}

theorem decisions_filter (bounds : List Float) (ms : List Measurement) :
    (Registry.mk bounds (ms.filter fun m => !m.isFetch)).decisions =
      (Registry.mk bounds ms).decisions := by
  rw [decisions, decisions, List.filterMap_filter]
  refine List.filterMap_congr fun m _ => ?_
  cases m <;> rfl

theorem failSafes_filter (bounds : List Float) (ms : List Measurement) :
    (Registry.mk bounds (ms.filter fun m => !m.isFetch)).failSafes =
      (Registry.mk bounds ms).failSafes := by
  rw [failSafes, failSafes, List.filterMap_filter]
  refine List.filterMap_congr fun m _ => ?_
  cases m <;> rfl

theorem decisions_append (bounds : List Float) (ms ms' : List Measurement) :
    (Registry.mk bounds (ms ++ ms')).decisions =
      (Registry.mk bounds ms).decisions ++ (Registry.mk bounds ms').decisions :=
  List.filterMap_append

theorem failSafes_append (bounds : List Float) (ms ms' : List Measurement) :
    (Registry.mk bounds (ms ++ ms')).failSafes =
      (Registry.mk bounds ms).failSafes ++ (Registry.mk bounds ms').failSafes :=
  List.filterMap_append

/-! ## The gauge -/

/-- By how much a measurement changes the number of requests in the chain. -/
def weight : Measurement → Int
  | .entered => 1
  | .left => -1
  | _ => 0

/-- By how much some measurements do. -/
def rise : List Measurement → Int
  | [] => 0
  | m :: ms => weight m + rise ms

theorem rise_append (ms ms' : List Measurement) : rise (ms ++ ms') = rise ms + rise ms' := by
  induction ms with
  | nil => simp [rise]
  | cons m ms ih => simp only [List.cons_append, rise, ih, Int.add_assoc]

theorem weight_of_isFetch {m : Measurement} (h : m.isFetch = true) : weight m = 0 := by
  cases m with
  | fetch => rfl
  | decision | failSafe | entered | left => cases h

theorem rise_filter (ms : List Measurement) : rise (ms.filter fun m => !m.isFetch) = rise ms := by
  induction ms with
  | nil => rfl
  | cons m ms ih =>
    cases hm : m.isFetch with
    | true =>
      rw [List.filter_cons_of_neg (by simp [hm]), ih, rise, weight_of_isFetch hm, Int.zero_add]
    | false => rw [List.filter_cons_of_pos (by simp [hm]), rise, rise, ih]

/-- Where nobody enters and nobody leaves, the number stays. -/
theorem rise_eq_zero (h : ∀ m ∈ ms, weight m = 0) : rise ms = 0 := by
  induction ms with
  | nil => rfl
  | cons m ms ih =>
    rw [List.forall_mem_cons] at h
    rw [rise, h.1, ih h.2, Int.zero_add]

theorem inFlight_eq_rise (r : Registry) : r.inFlight = rise r.measurements := by
  have hfold (ms : List Measurement) :
      ∀ n : Int, ms.foldl (fun n m => n + weight m) n = n + rise ms := by
    induction ms with
    | nil => simp [rise]
    | cons m ms ih =>
      intro n
      rw [List.foldl_cons, ih, rise, Int.add_assoc]
  have hsame : r.inFlight = r.measurements.foldl (fun n m => n + weight m) 0 := by
    rw [inFlight]
    congr 1
    funext n m
    cases m with
    | entered | left => rfl
    | decision | failSafe | fetch => exact (Int.add_zero n).symm
  rw [hsame, hfold, Int.zero_add]

/-- **The gauge changes by what is recorded.** -/
theorem inFlight_record (r : Registry) (ms : List Measurement) :
    (r.record ms).inFlight = r.inFlight + rise ms := by
  rw [inFlight_eq_rise, inFlight_eq_rise, record, rise_append]

/-! ## Series -/

/-- The sum of some numbers. -/
def sum : List Nat → Nat
  | [] => 0
  | n :: ns => n + sum ns

/-- The sum of the series of an application's decisions. -/
def decided (r : Registry) (app : String) : Nat :=
  sum (((distinct r.decisions).filter fun key => key.1 == app).map r.decisions.count)

variable {α : Type} [BEq α]

theorem distinct_concat (l : List α) (a : α) :
    distinct (l ++ [a]) =
      if (distinct l).contains a then distinct l else distinct l ++ [a] := by
  rw [distinct, List.foldl_append]
  rfl

variable [LawfulBEq α]

theorem mem_distinct (l : List α) (a : α) : a ∈ distinct l ↔ a ∈ l := by
  induction l using List.reverseRecOn with
  | nil => simp [distinct]
  | append_singleton l b ih =>
    rw [distinct_concat, List.mem_append, List.mem_singleton, ← ih]
    split
    · next hb =>
      rw [List.contains_iff_mem] at hb
      exact ⟨.inl, fun h => h.elim id fun heq => heq ▸ hb⟩
    · rw [List.mem_append, List.mem_singleton]

theorem nodup_distinct (l : List α) : (distinct l).Nodup := by
  induction l using List.reverseRecOn with
  | nil => exact List.nodup_nil
  | append_singleton l b ih =>
    rw [distinct_concat]
    split
    · exact ih
    · next hb =>
      rw [List.contains_iff_mem] at hb
      exact List.nodup_append.2 ⟨ih, List.nodup_singleton b, by
        rintro a ha c hc rfl
        exact hb (List.mem_singleton.1 hc ▸ ha)⟩

theorem sum_map_count_cons (keys l : List α) (a : α) :
    sum (keys.map (a :: l).count) = sum (keys.map l.count) + keys.count a := by
  induction keys with
  | nil => rfl
  | cons key keys ih =>
    rw [List.map_cons, List.map_cons, sum, sum, ih, List.count_cons, List.count_cons,
      BEq.comm (a := a)]
    omega

/-- Counts of different keys add up to how often one of the keys occurs. -/
theorem sum_map_count {keys : List α} (hkeys : keys.Nodup) {p : α → Bool}
    (hp : ∀ key ∈ keys, p key = true) {l : List α} (hl : ∀ a ∈ l, p a = true → a ∈ keys) :
    sum (keys.map l.count) = l.countP p := by
  induction l with
  | nil =>
    have hzero (keys : List α) : sum (keys.map ([] : List α).count) = 0 := by
      induction keys with
      | nil => rfl
      | cons key keys ih => rw [List.map_cons, sum, ih, List.count_nil]
    exact hzero keys
  | cons a l ih =>
    rw [List.forall_mem_cons] at hl
    rw [sum_map_count_cons, ih hl.2, List.countP_cons]
    congr 1
    by_cases ha : p a = true
    · rw [if_pos ha, List.count_eq_one_of_mem hkeys (hl.1 ha)]
    · rw [if_neg ha, List.count_eq_zero_of_not_mem fun hmem => ha (hp a hmem)]

/-- **The series of an application add up to the number of its decisions.** -/
theorem decided_eq (r : Registry) (app : String) :
    r.decided app = r.decisions.countP fun key => key.1 == app := by
  refine sum_map_count ((nodup_distinct _).filter _) (fun key hkey => ?_) fun key hkey happ => ?_
  · exact (List.mem_filter.1 hkey).2
  · exact List.mem_filter.2 ⟨(mem_distinct _ key).2 hkey, happ⟩

end Registry
end Gatehouse
