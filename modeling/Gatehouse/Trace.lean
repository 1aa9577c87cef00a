import Gatehouse.Http.Exchange
import Gatehouse.Registration.Call
import Gatehouse.Telemetry.LogLine
import Gatehouse.Telemetry.Measurement

/-!
# Traces

Everything that a request brings about apart from its answer is written down, in order, in a
*trace*: the log lines, the measurements, the requests to the page server, and the calls to the
backend, each with a mark when it is started and another when its answer has arrived.  A call that
is cut off by a limit has only the first mark.

`Traced α` is a computation that answers an `α` and adds to a trace.

* `lines_append`, `measurements_append`, `asked_append`, `answered_append`, `forwarded_append` —
  each view of a trace grows by what the new events show in it.
-/

set_option autoImplicit false

namespace Gatehouse

/-- One thing that happened. -/
inductive Event where
  | logged (line : LogLine)
  | measured (m : Measurement)
  /-- The backend was asked. -/
  | asked (call : Registration.Call)
  /-- The backend's answer arrived. -/
  | answered (call : Registration.Call)
  /-- The page server was sent a request. -/
  | forwarded (request : Http.Outgoing)

/-- Whether an event only tells of something: a log line or a measurement. -/
def Event.isRemark : Event → Bool
  | .logged _ | .measured _ => true
  | _ => false

/-- What happened, in order. -/
structure Trace where
  events : List Event := []

namespace Trace

/-- The trace after some more events. -/
def append (t : Trace) (events : List Event) : Trace :=
  ⟨t.events ++ events⟩

/-- The log lines of a trace. -/
def lines (t : Trace) : List LogLine :=
  t.events.filterMap fun
    | .logged line => some line
    | _ => none

/-- The measurements of a trace. -/
def measurements (t : Trace) : List Measurement :=
  t.events.filterMap fun
    | .measured m => some m
    | _ => none

/-- The calls that were started. -/
def asked (t : Trace) : List Registration.Call :=
  t.events.filterMap fun
    | .asked call => some call
    | _ => none

/-- The calls whose answers arrived. -/
def answered (t : Trace) : List Registration.Call :=
  t.events.filterMap fun
    | .answered call => some call
    | _ => none

/-- The requests that the page server was sent. -/
def forwarded (t : Trace) : List Http.Outgoing :=
  t.events.filterMap fun
    | .forwarded request => some request
    | _ => none

/-- What happened after a number of events. -/
def after (t : Trace) (count : Nat) : Trace :=
  ⟨t.events.drop count⟩

/-! ## Small facts -/

@[simp] theorem events_append (t : Trace) (events : List Event) :
    (t.append events).events = t.events ++ events := rfl

@[simp] theorem lines_append (t : Trace) (events : List Event) :
    (t.append events).lines = t.lines ++ lines ⟨events⟩ := by
  simp [lines]

@[simp] theorem measurements_append (t : Trace) (events : List Event) :
    (t.append events).measurements = t.measurements ++ measurements ⟨events⟩ := by
  simp [measurements]

@[simp] theorem asked_append (t : Trace) (events : List Event) :
    (t.append events).asked = t.asked ++ asked ⟨events⟩ := by
  simp [asked]

@[simp] theorem answered_append (t : Trace) (events : List Event) :
    (t.append events).answered = t.answered ++ answered ⟨events⟩ := by
  simp [answered]

@[simp] theorem forwarded_append (t : Trace) (events : List Event) :
    (t.append events).forwarded = t.forwarded ++ forwarded ⟨events⟩ := by
  simp [forwarded]

end Trace

/-- The event inside a span, if it is a log line. -/
def Event.within (span : LogSpan) : Event → Event
  | .logged line => .logged (line.within span)
  | e => e

/-- A computation that adds to a trace. -/
abbrev Traced (α : Type) := StateM Trace α

namespace Traced

/-- Write events down. -/
def note (events : List Event) : Traced Unit :=
  modify (·.append events)

/-- Write a log line. -/
def log (level : LogLevel) (target message : String) (fields : List (String × Json)) :
    Traced Unit :=
  note [.logged { level, target, message, fields }]

/-- Record a measurement. -/
def measure (m : Measurement) : Traced Unit :=
  note [.measured m]

/-- A computation whose log lines stand inside a span. -/
def within {α : Type} (span : LogSpan) (t : Traced α) : Traced α := fun before =>
  let (a, after) := t.run before
  let count := before.events.length
  (a, ⟨after.events.take count ++ (after.events.drop count).map (Event.within span)⟩)

end Traced
end Gatehouse
