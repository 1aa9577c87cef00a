import Gatehouse.Text.Case
import Gatehouse.Vocabulary

/-!
# Applications

The three applications that the gateway can stand in front of.  One running gateway serves one of
them, under a base path which the configuration may change.
-/

set_option autoImplicit false

namespace Gatehouse

/-- An application behind the gateway. -/
inductive App where
  | administration
  | registration
  | dashboard
deriving Repr, DecidableEq

instance : Vocabulary App where
  all := [.administration, .registration, .dashboard]
  word
    | .administration => "administration"
    | .registration => "registration"
    | .dashboard => "dashboard"

namespace App

/-- The base path of an application unless it is configured otherwise. -/
def defaultBasePath (app : App) : String :=
  "/" ++ Vocabulary.word app

/-- A word that names no application. -/
structure Unknown where
  word : String
deriving Repr, DecidableEq

/-- The text of the fault, which lists what was expected. -/
def Unknown.message (e : Unknown) : String :=
  "unknown application '" ++ e.word ++
    "', expected 'administration', 'registration', or 'dashboard'"

/-- The application that a word names, whatever its case. -/
def parse (s : String) : Except Unknown App :=
  match Vocabulary.ofWord? (Text.lower s) with
  | some app => .ok app
  | none => .error ⟨Text.lower s⟩

end App
end Gatehouse
