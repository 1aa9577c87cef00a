import Gatehouse.Config.Basic
import Gatehouse.Json.Record

/-!
# Configurations as records

Each section is a closed record: a setting that does not exist is a fault, and one that is left out
has its default.  So has a section that is left out.  The same rules read a JSON text and a TOML
document, and `Config.toJson` writes every setting, the secret included.
-/

set_option autoImplicit false

namespace Gatehouse
namespace Config

open Json

/-- A closed record with fields of one name each. -/
def layout (names : List String) : Layout where
  names := names.map fun n => [n]
  closed := true

/-! ## Reading -/

/-- The gateway section of a tree. -/
def GatewaySection.ofJson? (source : Source) (v : Json) : Option GatewaySection := do
  let d : GatewaySection := {}
  let s ← slots? source (layout ["listen_addr", "upstream_url", "upstream_timeout_ms"]) v
  let listenAddr ← s.withDefault? 0 d.listenAddr text?
  let pagesUrl ← s.withDefault? 1 d.pagesUrl text?
  let pagesTimeout ← s.withDefault? 2 d.pagesTimeout word64?
  return { listenAddr, pagesUrl, pagesTimeout }

/-- The backend section of a tree. -/
def BackendSection.ofJson? (source : Source) (v : Json) : Option BackendSection := do
  let d : BackendSection := {}
  let s ← slots? source (layout ["api_url", "request_timeout_ms", "rule_timeout_ms"]) v
  let apiUrl ← s.withDefault? 0 d.apiUrl text?
  let requestTimeout ← s.withDefault? 1 d.requestTimeout word64?
  let ruleTimeout ← s.withDefault? 2 d.ruleTimeout word64?
  return { apiUrl, requestTimeout, ruleTimeout }

/-- The session section of a tree. -/
def SessionSection.ofJson? (source : Source) (v : Json) : Option SessionSection := do
  let d : SessionSection := {}
  let s ← slots? source (layout ["secret", "cookie_names", "allow_bearer"]) v
  let secret ← s.withDefault? 0 d.secret text?
  let cookieNames ← s.withDefault? 1 d.cookieNames texts?
  let allowBearer ← s.withDefault? 2 d.allowBearer bool?
  return { secret, cookieNames, allowBearer }

/-- The application section of a tree. -/
def AppSection.ofJson? (source : Source) (v : Json) : Option AppSection := do
  let d : AppSection := {}
  let s ← slots? source (layout ["profile", "base_path", "onboarding_path", "exempt_prefixes"]) v
  let app ← s.withDefault? 0 d.app (vocabulary? source)
  let basePath ← s.withDefault? 1 d.basePath (nullable? text?)
  let onboardingPath ← s.withDefault? 2 d.onboardingPath text?
  let exemptPrefixes ← s.withDefault? 3 d.exemptPrefixes texts?
  return { app, basePath, onboardingPath, exemptPrefixes }

/-- The telemetry section of a tree. -/
def TelemetrySection.ofJson? (source : Source) (v : Json) : Option TelemetrySection := do
  let d : TelemetrySection := {}
  let s ← slots? source (layout ["service_name", "log_level", "log_format", "metrics_enabled"]) v
  let serviceName ← s.withDefault? 0 d.serviceName text?
  let logLevel ← s.withDefault? 1 d.logLevel text?
  let logFormat ← s.withDefault? 2 d.logFormat (vocabulary? source)
  let metricsEnabled ← s.withDefault? 3 d.metricsEnabled bool?
  return { serviceName, logLevel, logFormat, metricsEnabled }

/-- The configuration of a tree. -/
def ofJson? (source : Source) (v : Json) : Option Config := do
  let s ← slots? source (layout ["gateway", "backend", "session", "app", "telemetry"]) v
  let gateway ← s.withDefault? 0 {} (GatewaySection.ofJson? source)
  let backend ← s.withDefault? 1 {} (BackendSection.ofJson? source)
  let session ← s.withDefault? 2 {} (SessionSection.ofJson? source)
  let app ← s.withDefault? 3 {} (AppSection.ofJson? source)
  let telemetry ← s.withDefault? 4 {} (TelemetrySection.ofJson? source)
  return { gateway, backend, session, app, telemetry }

/-! ## Writing -/

/-- Texts as a list. -/
def textsToJson (texts : List String) : Json :=
  .array (texts.map Json.str)

/-- The gateway section as a tree. -/
def GatewaySection.toJson (s : GatewaySection) : Json :=
  Json.obj [("listen_addr", Json.str s.listenAddr), ("upstream_url", Json.str s.pagesUrl),
    ("upstream_timeout_ms", Json.nat s.pagesTimeout)]

/-- The backend section as a tree. -/
def BackendSection.toJson (s : BackendSection) : Json :=
  Json.obj [("api_url", Json.str s.apiUrl), ("request_timeout_ms", Json.nat s.requestTimeout),
    ("rule_timeout_ms", Json.nat s.ruleTimeout)]

/-- The session section as a tree. -/
def SessionSection.toJson (s : SessionSection) : Json :=
  Json.obj [("secret", Json.str s.secret), ("cookie_names", textsToJson s.cookieNames),
    ("allow_bearer", .bool s.allowBearer)]

/-- The application section as a tree. -/
def AppSection.toJson (s : AppSection) : Json :=
  Json.obj [("profile", Vocabulary.toJson s.app),
    ("base_path", Json.ofOption Json.str s.basePath),
    ("onboarding_path", Json.str s.onboardingPath),
    ("exempt_prefixes", textsToJson s.exemptPrefixes)]

/-- The telemetry section as a tree. -/
def TelemetrySection.toJson (s : TelemetrySection) : Json :=
  Json.obj [("service_name", Json.str s.serviceName), ("log_level", Json.str s.logLevel),
    ("log_format", Vocabulary.toJson s.logFormat), ("metrics_enabled", .bool s.metricsEnabled)]

/-- The configuration as a tree. -/
def toJson (c : Config) : Json :=
  Json.obj [("gateway", c.gateway.toJson), ("backend", c.backend.toJson),
    ("session", c.session.toJson), ("app", c.app.toJson), ("telemetry", c.telemetry.toJson)]

end Config
end Gatehouse
