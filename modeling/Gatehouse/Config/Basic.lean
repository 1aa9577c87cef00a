import Gatehouse.App
import Gatehouse.Routing.Gate
import Gatehouse.Routing.Profile
import Gatehouse.Session.Resolver
import Gatehouse.Telemetry.Settings

/-!
# Configuration

What can be set about a gateway, in five sections: the server itself, the registration backend,
sessions, the application, and telemetry.  Every setting has a default, but for two of them it is
empty and the gateway does not start with it: the address of the backend and the secret of the
sessions.

From the sections follow the settings of the log and the routing profile.
-/

set_option autoImplicit false

namespace Gatehouse
namespace Config

/-- The server, and the page server behind it. -/
structure GatewaySection where
  listenAddr : String := "0.0.0.0:8080"
  /-- The URL of the page server. -/
  pagesUrl : String := "http://127.0.0.1:3000"
  /-- The greatest number of milliseconds that the page server may take. -/
  pagesTimeout : Nat := 30000
deriving Repr, DecidableEq

/-- The registration backend. -/
structure BackendSection where
  apiUrl : String := ""
  /-- The greatest number of milliseconds that one call may take. -/
  requestTimeout : Nat := 5000
  /-- The greatest number of milliseconds that all calls for one request may take. -/
  ruleTimeout : Nat := 8000
deriving Repr, DecidableEq

/-- Where sessions are looked for, and the secret that they are signed with. -/
structure SessionSection where
  secret : String := ""
  cookieNames : List String := Session.defaultCookieNames
  allowBearer : Bool := true
deriving Repr, DecidableEq

/-- The application. -/
structure AppSection where
  app : App := .administration
  /-- The base path, if it is not the application's own. -/
  basePath : Option String := none
  onboardingPath : String := Routing.defaultOnboardingPath
  exemptPrefixes : List String := Routing.defaultExemptPrefixes
deriving Repr, DecidableEq

/-- The log and the measurements. -/
structure TelemetrySection where
  serviceName : String := "portico-gateway"
  logLevel : String := "info"
  logFormat : LogFormat := .json
  metricsEnabled : Bool := true
deriving Repr, DecidableEq

end Config

open Config

/-- A whole configuration. -/
structure Config where
  gateway : GatewaySection := {}
  backend : BackendSection := {}
  session : SessionSection := {}
  app : AppSection := {}
  telemetry : TelemetrySection := {}
deriving Repr, DecidableEq

namespace Config

/-! ## Presets -/

/-- The defaults with a readable and detailed log. -/
def development : Config where
  telemetry := { logLevel := "debug", logFormat := .pretty }

/-- The defaults with a log for machines. -/
def production : Config where
  telemetry := { logLevel := "info", logFormat := .json }

/-! ## Derived settings -/

/-- The base path of the application. -/
def AppSection.effectiveBasePath (s : AppSection) : String :=
  s.basePath.getD s.app.defaultBasePath

/-- The settings of the log. -/
def logSettings (c : Config) : LogSettings :=
  let preset := match c.telemetry.logFormat with
    | .json => LogSettings.production
    | .pretty => LogSettings.development
  { preset with level := c.telemetry.logLevel }

/-- The routing profile. -/
def profile (c : Config) : Routing.Profile :=
  { Routing.Profile.forApp c.app.app with
    basePath := c.app.effectiveBasePath
    onboardingPath := c.app.onboardingPath
    exemptPrefixes := c.app.exemptPrefixes
    ruleTimeout := c.backend.ruleTimeout }

/-- What says who sent a request. -/
def resolver (c : Config) : Session.TokenResolver where
  secret := Text.bytes c.session.secret
  cookieNames := c.session.cookieNames
  allowBearer := c.session.allowBearer

/-- A description of the session section.  It does not show the secret. -/
def SessionSection.describe (s : SessionSection) : String :=
  Text.record "SessionConfig" [("secret", Text.quoted "<redacted>"),
    ("cookie_names", Text.listed (s.cookieNames.map Text.quoted)),
    ("allow_bearer", toString s.allowBearer)]

end Config
end Gatehouse
