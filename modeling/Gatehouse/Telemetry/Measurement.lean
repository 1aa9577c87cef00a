/-!
# Measurements

What the gateway counts and times.  A measurement is recorded where the thing happens, whether or
not anything collects it; `Gatehouse.Telemetry.Registry` says what a collector makes of a list of
them.
-/

set_option autoImplicit false

namespace Gatehouse

/-- One thing that is counted or timed. -/
inductive Measurement where
  /-- A request of an application was decided. -/
  | decision (app kind : String)
  /-- A caller was sent to the root of an application because its rules could not be evaluated. -/
  | failSafe (app reason : String)
  /-- The backend was asked for a record, and answered or failed after some milliseconds. -/
  | fetch (endpoint : String) (succeeded : Bool) (milliseconds : Nat)
  /-- A request entered the chain. -/
  | entered
  /-- A request left the chain. -/
  | left
deriving Repr, DecidableEq

end Gatehouse
