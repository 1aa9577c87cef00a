import Gatehouse.Json.Record

/-!
# Facts about operators

The registration backend keeps one record for each pair of a user and an operator.  `Facts` is the
part of it that the business rules look at: how far the user's request for access has come, which
operator it is, and how far the operator itself has come.

A record is read by the rules of `Gatehouse.Json.Record`.  Every field but the first has two names,
one in each of the spellings that the backend has used, and the operator's identifier may be a text
or a number, which is kept as its digits.
-/

set_option autoImplicit false

namespace Gatehouse

/-- How far an operator has come. -/
inductive OperatorStatus where
  | draft
  | pending
  | approved
  | declined
deriving Repr, DecidableEq

/-- How far a user's request for access to an operator has come. -/
inductive AccessStatus where
  | pending
  | approved
  | declined
deriving Repr, DecidableEq

instance : Vocabulary OperatorStatus where
  all := [.draft, .pending, .approved, .declined]
  word
    | .draft => "Draft"
    | .pending => "Pending"
    | .approved => "Approved"
    | .declined => "Declined"

instance : Vocabulary AccessStatus where
  all := [.pending, .approved, .declined]
  word
    | .pending => "Pending"
    | .approved => "Approved"
    | .declined => "Declined"

/-- Whether an operator of this status may be worked on. -/
def OperatorStatus.permitsOperations : OperatorStatus → Bool
  | .pending | .approved => true
  | .draft | .declined => false

/-- A word that names no status. -/
structure UnknownStatus where
  word : String
deriving Repr, DecidableEq

/-- The text of the fault. -/
def UnknownStatus.message (e : UnknownStatus) : String :=
  "unknown status: " ++ e.word

/-- A status from its word, which has to be spelled exactly. -/
def Status.parse {α : Type} [Vocabulary α] (s : String) : Except UnknownStatus α :=
  match Vocabulary.ofWord? s with
  | some a => .ok a
  | none => .error ⟨s⟩

/-! ## Facts -/

/-- What the backend knows about a user and an operator. -/
structure Facts where
  access : AccessStatus
  operatorId : String
  operator : OperatorStatus
  legalName : String
deriving Repr, DecidableEq

namespace Facts

/-- The fields of the record and their names. -/
def layout : Json.Layout where
  names := [["status"], ["operatorId", "operator_id"], ["operatorStatus", "operator_status"],
    ["operatorLegalName", "operator_legal_name"]]

/-- An operator's identifier: a text, or a number as its digits. -/
def operatorId? (v : Json) : Option String :=
  match v with
  | .string t => t
  | v => (Json.word64? v).map fun n => toString n

/-- The record that a value denotes. -/
def ofJson? (v : Json) : Option Facts := do
  let slots ← Json.slots? .json layout v
  let access ← slots.required? 0 (Json.vocabulary? .json)
  let operatorId ← slots.required? 1 operatorId?
  let operator ← slots.required? 2 (Json.vocabulary? .json)
  let legalName ← slots.withDefault? 3 "" Json.text?
  return { access, operatorId, operator, legalName }

/-- The record as an object. -/
def toJson (f : Facts) : Json :=
  Json.obj [("status", Vocabulary.toJson f.access), ("operatorId", Json.str f.operatorId),
    ("operatorStatus", Vocabulary.toJson f.operator), ("operatorLegalName", Json.str f.legalName)]

end Facts
end Gatehouse
