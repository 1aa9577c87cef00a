import Gatehouse.Fault
import Gatehouse.Operator
import Gatehouse.Text.Duration
import Gatehouse.Trace

/-!
# The registration backend

A backend answers calls.  An answer has a result and takes some time, or never comes; and it may add
log lines and measurements to the trace once it has arrived, but no calls of its own.  What a
backend answers may depend on the calls that were made before, so `Backend.answer` is given them.

`ask` puts one call to a backend within a *budget* of milliseconds.  An answer that takes exactly
the budget is in time; of one that takes longer nothing is seen but that the call was started.
`fetch` asks several endpoints in turn, on one budget, until there is a record or a failure.
-/

set_option autoImplicit false

namespace Gatehouse
namespace Registration

/-- Why there is no answer. -/
inductive BackendError where
  /-- The client could not be set up. -/
  | client (cause : String)
  /-- No response arrived, or not all of it. -/
  | request (endpoint : Endpoint) (cause : String)
  /-- The rules ran out of time, which is given in milliseconds. -/
  | timeout (after : Nat)
  /-- The response had an unexpected status. -/
  | status (endpoint : Endpoint) (code : Nat)
  /-- The response held no record. -/
  | payload (endpoint : Endpoint) (cause : String)
deriving Repr, DecidableEq

namespace BackendError

/-- The text of the fault. -/
def message : BackendError → String
  | .client c => "failed to build backend client: " ++ c
  | .request e c => "request to " ++ Vocabulary.word e ++ " failed: " ++ c
  | .timeout t => "backend did not answer within " ++ Text.duration t
  | .status e n => Vocabulary.word e ++ " returned HTTP " ++ toString n
  | .payload e c => Vocabulary.word e ++ " returned an invalid payload: " ++ c

/-- The fault as one that keeps the gateway from deciding. -/
def toFault (e : BackendError) : Fault :=
  .backendUnavailable e.message

end BackendError

/-- A record, or that there is none, or why neither can be said. -/
abbrev Result := Except BackendError (Option Facts)

/-- How a backend answers a call. -/
structure Answer where
  result : Result
  /-- The milliseconds until the answer; none if it never comes. -/
  after : Option Nat := some 0
  /-- What the answer adds to the trace. -/
  events : List Event := []
  remarks : ∀ e ∈ events, e.isRemark = true := by simp

/-- Whatever answers calls, given the calls before. -/
structure Backend where
  answer : List Call → Call → Answer

/-- A number of milliseconds that may be spent, or no limit. -/
abbrev Budget := Option Nat

/-- What is left of a budget, unless it is overspent. -/
def Budget.spend? (budget : Budget) (t : Nat) : Option Budget :=
  match budget with
  | none => some none
  | some limit => if t ≤ limit then some (some (limit - t)) else none

/-- Ask the backend within a budget: the result and what is left of the budget, or nothing if the
answer did not arrive in time. -/
def ask (backend : Backend) (call : Call) (budget : Budget) :
    Traced (Option (Result × Budget)) := do
  let answer := backend.answer (← get).asked call
  Traced.note [.asked call]
  match answer.after.bind budget.spend? with
  | none => return none
  | some rest =>
    Traced.note (.answered call :: answer.events)
    return some (answer.result, rest)

/-- Ask several endpoints for a record of one user until there is a record or a failure; nothing if
the time ran out first. -/
def fetch (backend : Backend) (userId : String) : List Endpoint → Budget → Traced (Option Result)
  | [], _ => return some (.ok none)
  | e :: es, budget => do
    match ← ask backend ⟨e, userId⟩ budget with
    | none => return none
    | some (.ok none, rest) => fetch backend userId es rest
    | some (result, _) => return some result

end Registration
end Gatehouse
