import Gatehouse.Text.Blank
import Gatehouse.Text.Case
import Gatehouse.Vocabulary

/-!
# Who is calling

A caller comes from an identity provider and holds one role in the applications.  Every role belongs
to exactly one provider: the five staff roles to `idir`, the two industry roles to `bceidbusiness`.
So a role alone fixes the *namespace* of a caller, the pair of path segments under which the page
server keeps the pages for that role, and `Claims` stores the role and nothing that could contradict
it.

* `Claims.parse` reads the three attributes of a session in the order in which their faults are
  reported: provider, role, user identifier, and last whether provider and role belong together.
* `Role.mem_all` and `Provider.mem_all` say that the two tables are complete.
-/

set_option autoImplicit false

namespace Gatehouse

/-- An identity provider. -/
inductive Provider where
  | idir
  | bceidBusiness
deriving Repr, DecidableEq

/-- A role in the applications. -/
inductive Role where
  | casAdmin
  | casAnalyst
  | casDirector
  | casPending
  | casViewOnly
  | industryUser
  | industryUserAdmin
deriving Repr, DecidableEq

instance : Vocabulary Provider where
  all := [.idir, .bceidBusiness]
  word
    | .idir => "idir"
    | .bceidBusiness => "bceidbusiness"

instance : Vocabulary Role where
  all := [.casAdmin, .casAnalyst, .casDirector, .casPending, .casViewOnly, .industryUser,
    .industryUserAdmin]
  word
    | .casAdmin => "cas_admin"
    | .casAnalyst => "cas_analyst"
    | .casDirector => "cas_director"
    | .casPending => "cas_pending"
    | .casViewOnly => "cas_view_only"
    | .industryUser => "industry_user"
    | .industryUserAdmin => "industry_user_admin"

theorem Provider.mem_all (p : Provider) : p ∈ (Vocabulary.all : List Provider) := by
  cases p <;> decide

theorem Role.mem_all (r : Role) : r ∈ (Vocabulary.all : List Role) := by
  cases r <;> decide

/-- The provider whose callers can hold a role. -/
def Role.provider : Role → Provider
  | .industryUser | .industryUserAdmin => .bceidBusiness
  | _ => .idir

/-- The provider and the role as two path segments. -/
def Role.namespacePath (r : Role) : String :=
  Vocabulary.word r.provider ++ "/" ++ Vocabulary.word r

/-! ## Claims -/

/-- What can be wrong with the attributes of a session. -/
inductive ClaimsError where
  | unknownProvider (word : String)
  | unknownRole (word : String)
  | providerMismatch (provider : Provider) (role : Role)
  | emptyUserId
deriving Repr, DecidableEq

/-- The text of a fault in the attributes. -/
def ClaimsError.message : ClaimsError → String
  | .unknownProvider w => "unknown identity provider: " ++ w
  | .unknownRole w => "unknown application role: " ++ w
  | .providerMismatch p r =>
    "role " ++ Vocabulary.word r ++ " is not valid for identity provider " ++ Vocabulary.word p
  | .emptyUserId => "user identifier is empty"

/-- An attribute as it is compared: without blanks around it and in small letters. -/
def spelling (s : String) : String :=
  Text.lowerAscii (Text.trimmed s)

/-- The provider that an attribute names. -/
def Provider.parse (s : String) : Except ClaimsError Provider :=
  match Vocabulary.ofWord? (spelling s) with
  | some p => .ok p
  | none => .error (.unknownProvider (spelling s))

/-- The role that an attribute names. -/
def Role.parse (s : String) : Except ClaimsError Role :=
  match Vocabulary.ofWord? (spelling s) with
  | some r => .ok r
  | none => .error (.unknownRole (spelling s))

/-- What is known about a caller whose session has been accepted. -/
structure Claims where
  role : Role
  userId : String
  userId_visible : Text.isAllBlank userId = false
deriving DecidableEq

namespace Claims

/-- The provider of the caller. -/
def provider (c : Claims) : Provider :=
  c.role.provider

/-- The namespace of the caller. -/
def namespacePath (c : Claims) : String :=
  c.role.namespacePath

/-- Whether the caller is an industry user, to whom the business rules apply. -/
def isIndustry (c : Claims) : Bool :=
  c.provider == .bceidBusiness

/-- Claims for a provider, a role and a user identifier. -/
def new (provider : Provider) (role : Role) (userId : String) : Except ClaimsError Claims :=
  if h : Text.isAllBlank userId = false then
    if role.provider = provider then .ok ⟨role, userId, h⟩
    else .error (.providerMismatch provider role)
  else .error .emptyUserId

/-- Claims from the three attributes of a session. -/
def parse (provider role userId : String) : Except ClaimsError Claims := do
  let p ← Provider.parse provider
  let r ← Role.parse role
  new p r userId

end Claims
end Gatehouse
