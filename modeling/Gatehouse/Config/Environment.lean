import Gatehouse.Config.Basic
import Gatehouse.Config.Error
import Gatehouse.Text.Blank
import Gatehouse.Text.Pieces

/-!
# Settings from the environment

Environment variables override what files say.  Two of them have a name of their own, for the
address of the backend and for the secret of the sessions; these count only if they have a value.
For every other setting there is a variable whose name is made of a prefix, the section and the
setting, with two underscores between them.

A variable with the prefix that names no setting is passed over, but one in which the prefix is not
followed by two underscores is a fault, and so is a value that cannot be read.  As no two variables
have the same name, no two of them change the same setting, and their order does not matter.
-/

set_option autoImplicit false

namespace Gatehouse

/-- The variables of a process with their values. -/
abbrev Environment := List (String × String)

namespace Config

/-! ## Values -/

/-- A number that fits in 64 bits. -/
def readNumber (name value : String) : Except ConfigError Nat :=
  let digits := match value.toList with
    | '+' :: ds => ds
    | ds => ds
  let isDigit (c : Char) : Bool := '0' ≤ c && c ≤ '9'
  let n := digits.foldl (fun n c => n * 10 + (c.toNat - '0'.toNat)) 0
  if digits.isEmpty || !digits.all isDigit || Json.maxWord < n then
    .error (.variable name "expected integer")
  else .ok n

/-- A truth value. -/
def readFlag (name value : String) : Except ConfigError Bool :=
  let word := Text.lower value
  if ["true", "1", "yes", "on"].contains word then .ok true
  else if ["false", "0", "no", "off"].contains word then .ok false
  else .error (.variable name "expected boolean")

/-- Texts separated by commas, without those that are blank. -/
def readList (value : String) : List String :=
  (((Text.pieces (· == ',') value.toList).map Text.trim).filter fun t => !t.isEmpty).map
    String.ofList

/-- An application. -/
def readApp (name value : String) : Except ConfigError App :=
  match App.parse value with
  | .ok app => .ok app
  | .error e => .error (.variable name e.message)

/-- The format of the log. -/
def readFormat (name value : String) : Except ConfigError LogFormat :=
  match Vocabulary.ofWord? (Text.lower value) with
  | some f => .ok f
  | none => .error (.variable name "expected 'json' or 'pretty'")

/-! ## Settings -/

/-- The configuration with one setting of the gateway section changed. -/
def setGateway (c : Config) (name key value : String) : Except ConfigError Config :=
  match key with
  | "LISTEN_ADDR" => .ok { c with gateway.listenAddr := value }
  | "UPSTREAM_URL" => .ok { c with gateway.pagesUrl := value }
  | "UPSTREAM_TIMEOUT_MS" =>
    (readNumber name value).map fun n => { c with gateway.pagesTimeout := n }
  | _ => .ok c

/-- The configuration with one setting of the backend section changed. -/
def setBackend (c : Config) (name key value : String) : Except ConfigError Config :=
  match key with
  | "API_URL" => .ok { c with backend.apiUrl := value }
  | "REQUEST_TIMEOUT_MS" =>
    (readNumber name value).map fun n => { c with backend.requestTimeout := n }
  | "RULE_TIMEOUT_MS" =>
    (readNumber name value).map fun n => { c with backend.ruleTimeout := n }
  | _ => .ok c

/-- The configuration with one setting of the session section changed. -/
def setSession (c : Config) (name key value : String) : Except ConfigError Config :=
  match key with
  | "SECRET" => .ok { c with session.secret := value }
  | "COOKIE_NAMES" => .ok { c with session.cookieNames := readList value }
  | "ALLOW_BEARER" => (readFlag name value).map fun b => { c with session.allowBearer := b }
  | _ => .ok c

/-- The configuration with one setting of the application section changed. -/
def setApp (c : Config) (name key value : String) : Except ConfigError Config :=
  match key with
  | "PROFILE" => (readApp name value).map fun app => { c with app.app := app }
  | "BASE_PATH" =>
    .ok { c with app.basePath := if value.isEmpty then none else some value }
  | "ONBOARDING_PATH" => .ok { c with app.onboardingPath := value }
  | "EXEMPT_PREFIXES" => .ok { c with app.exemptPrefixes := readList value }
  | _ => .ok c

/-- The configuration with one setting of the telemetry section changed. -/
def setTelemetry (c : Config) (name key value : String) : Except ConfigError Config :=
  match key with
  | "SERVICE_NAME" => .ok { c with telemetry.serviceName := value }
  | "LOG_LEVEL" => .ok { c with telemetry.logLevel := value }
  | "LOG_FORMAT" => (readFormat name value).map fun f => { c with telemetry.logFormat := f }
  | "METRICS_ENABLED" =>
    (readFlag name value).map fun b => { c with telemetry.metricsEnabled := b }
  | _ => .ok c

/-! ## Names -/

/-- The pieces of a text between pairs of underscores. -/
def parts : List Char → List (List Char)
  | [] => [[]]
  | '_' :: '_' :: cs => [] :: parts cs
  | c :: cs =>
    match parts cs with
    | [] => [[c]]
    | p :: ps => (c :: p) :: ps

/-- The configuration after one variable with the prefix. -/
def override (start : String) (c : Config) (v : String × String) : Except ConfigError Config :=
  match Path.afterStart? (start.toList ++ ['_', '_']) v.1.toList with
  | none => .error (.variable v.1 "invalid key format")
  | some rest =>
    match (parts rest).map String.ofList with
    | ["GATEWAY", key] => c.setGateway v.1 key v.2
    | ["BACKEND", key] => c.setBackend v.1 key v.2
    | ["SESSION", key] => c.setSession v.1 key v.2
    | ["APP", key] => c.setApp v.1 key v.2
    | ["TELEMETRY", key] => c.setTelemetry v.1 key v.2
    | _ => .ok c

/-- The configuration after the two variables that have a name of their own. -/
def withOwnVariables (c : Config) (own : String → Option String) : Config :=
  let apiUrl := (own "API_URL").filter fun v => !Text.isAllBlank v
  let secret := (own "NEXTAUTH_SECRET").filter fun v => !v.isEmpty
  { c with
    backend.apiUrl := apiUrl.getD c.backend.apiUrl
    session.secret := secret.getD c.session.secret }

/-- The configuration after the variables that have a name of their own, as they are looked up, and
the variables with the prefix if there is one, in the order in which they are listed. -/
def withVariables (c : Config) (own : String → Option String) (start : Option String)
    (vars : Environment) : Except ConfigError Config :=
  match start with
  | none => .ok (c.withOwnVariables own)
  | some start =>
    (vars.filter fun v => start.toList.isPrefixOf v.1.toList).foldlM (override start)
      (c.withOwnVariables own)

/-- The configuration after all variables of an environment. -/
def withEnvironment (c : Config) (env : Environment) (start : Option String) :
    Except ConfigError Config :=
  c.withVariables (fun name => env.lookup name) start env

end Config
end Gatehouse
