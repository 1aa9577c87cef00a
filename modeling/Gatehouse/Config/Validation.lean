import Gatehouse.Config.Basic
import Gatehouse.Config.Error
import Gatehouse.Net.SocketAddress
import Gatehouse.Url.Parser

/-!
# Validation

What has to hold of a configuration before a gateway starts with it.  `Config.faults` lists
everything that does not hold, in order of importance, and `Config.validate` answers the first
fault.

* `validate_eq_ok_iff` — a configuration is accepted exactly if it has no fault.
-/

set_option autoImplicit false

namespace Gatehouse
namespace Config

/-- What is wrong with a URL at which another server is to be reached. -/
def urlFault (field value : String) : Option ConfigError :=
  match Url.parse value with
  | .error e =>
    some (.invalidValue field ("invalid URL '" ++ value ++ "': " ++ e.message))
  | .ok url =>
    if url.scheme = "http" ∨ url.scheme = "https" then none
    else
      some (.invalidValue field
        ("unsupported scheme '" ++ url.scheme ++ "', expected http or https"))

/-- What is wrong with the address of the backend. -/
def apiUrlFault (value : String) : Option ConfigError :=
  if Text.isAllBlank value then some (.missingField "API_URL")
  else urlFault "backend.api_url" value

/-- What is wrong with the address of the server. -/
def listenFault (value : String) : Option ConfigError :=
  match Net.SocketAddress.parse? value with
  | some _ => none
  | none =>
    some (.invalidValue "gateway.listen_addr" ("invalid socket address: " ++ value))

/-- What is wrong with a limit of time. -/
def timeoutFault (field : String) (value : Nat) : Option ConfigError :=
  if value = 0 then some (.invalidValue field "must be greater than zero") else none

/-- Whether a text starts with a slash. -/
def isAbsolute (path : String) : Bool :=
  path.toList.head? == some '/'

/-- What is wrong with a path. -/
def pathFault (field value : String) : Option ConfigError :=
  if isAbsolute value then none else some (.invalidValue field "must be an absolute path")

/-- What is wrong with the first prefix that is no path. -/
def prefixFault (prefixes : List String) : Option ConfigError :=
  (prefixes.find? fun p => !isAbsolute p).map fun p =>
    .invalidValue "app.exempt_prefixes" ("'" ++ p ++ "' must be an absolute path prefix")

/-- What is wrong with a secret. -/
def secretFault (secret : String) : Option ConfigError :=
  if secret.isEmpty then some (.missingField "NEXTAUTH_SECRET") else none

/-- What is wrong with the places where sessions are looked for. -/
def placesFault (s : SessionSection) : Option ConfigError :=
  if s.cookieNames.isEmpty && !s.allowBearer then
    some (.inconsistent "session.cookie_names is empty and bearer tokens are disabled")
  else none

/-- Everything that is wrong with a configuration, in the order in which it is reported. -/
def faults (c : Config) : List ConfigError :=
  [apiUrlFault c.backend.apiUrl, secretFault c.session.secret, listenFault c.gateway.listenAddr,
    urlFault "gateway.upstream_url" c.gateway.pagesUrl,
    timeoutFault "gateway.upstream_timeout_ms" c.gateway.pagesTimeout,
    timeoutFault "backend.request_timeout_ms" c.backend.requestTimeout,
    timeoutFault "backend.rule_timeout_ms" c.backend.ruleTimeout,
    pathFault "app.onboarding_path" c.app.onboardingPath, prefixFault c.app.exemptPrefixes,
    pathFault "app.base_path" c.app.effectiveBasePath, placesFault c.session].filterMap id

/-- Whether a gateway can start with a configuration, and if not, the first reason. -/
def validate (c : Config) : Except ConfigError Unit :=
  match c.faults with
  | [] => .ok ()
  | e :: _ => .error e

theorem validate_eq_ok_iff (c : Config) : c.validate = .ok () ↔ c.faults = [] := by
  unfold validate
  split <;> simp_all

end Config
end Gatehouse
