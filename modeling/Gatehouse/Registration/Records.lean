import Gatehouse.Registration.Backend

/-!
# Records kept at hand

A backend that keeps its records in two tables, one for each endpoint.  It can be told to fail, and
to let some time pass before it looks at a call.
-/

set_option autoImplicit false

namespace Gatehouse
namespace Registration

/-- How long a call waits before it is looked at. -/
inductive Delay where
  | milliseconds (n : Nat)
  | forever
deriving Repr, DecidableEq

/-- The time that a delay takes, if it ends. -/
def Delay.time? : Delay → Option Nat
  | .milliseconds n => some n
  | .forever => none

/-- The records of all users. -/
structure Records where
  current : List (String × Facts) := []
  pending : List (String × Facts) := []
  /-- The status with which every call fails, if it is to fail. -/
  failing : Option Nat := none
  currentDelay : Delay := .milliseconds 0
  pendingDelay : Delay := .milliseconds 0
deriving Repr, DecidableEq

namespace Records

/-- The table for an endpoint. -/
def table (r : Records) : Endpoint → List (String × Facts)
  | .current => r.current
  | .pending => r.pending

/-- The delay at an endpoint. -/
def delay (r : Records) : Endpoint → Delay
  | .current => r.currentDelay
  | .pending => r.pendingDelay

/-- The record of a call.  Of several records for one user the last counts. -/
def lookup (r : Records) (call : Call) : Result :=
  match r.failing with
  | some code => .error (.status call.endpoint code)
  | none => .ok ((r.table call.endpoint).reverse.lookup call.userId)

/-- The tables as a backend.  It does not remember calls. -/
def backend (r : Records) : Backend where
  answer _ call := { result := r.lookup call, after := (r.delay call.endpoint).time? }

end Records
end Registration
end Gatehouse
