import Gatehouse.Telemetry.LogFilter
import Gatehouse.Vocabulary

/-!
# Settings of logs and metrics

What is written about the running of the gateway, and how.  Two presets cover the two places where a
gateway runs: in production, lines of JSON from the level `info` on; in development, lines for
people from the level `debug` on, with the places in the program they come from.
-/

set_option autoImplicit false

namespace Gatehouse

/-- How log lines are written. -/
inductive LogFormat where
  | json
  | pretty
deriving Repr, DecidableEq

instance : Vocabulary LogFormat where
  all := [.json, .pretty]
  word
    | .json => "json"
    | .pretty => "pretty"

/-- What is logged, and how. -/
structure LogSettings where
  enabled : Bool
  level : String
  format : LogFormat
  spanEvents : Bool
  fileLineInfo : Bool
  includeTarget : Bool
deriving Repr, DecidableEq

namespace LogSettings

/-- The settings for production. -/
def production : LogSettings := ⟨true, "info", .json, false, false, true⟩

/-- The settings for development. -/
def development : LogSettings := ⟨true, "debug", .pretty, true, true, true⟩

end LogSettings

/-- Why telemetry could not be set up. -/
inductive TelemetryError where
  | metrics (cause : String)
  | logging (cause : String)
deriving Repr, DecidableEq

/-- The text of the fault. -/
def TelemetryError.message : TelemetryError → String
  | .metrics c => "Failed to initialize metrics: " ++ c
  | .logging c => "Failed to initialize logging: " ++ c

namespace LogSettings

/-- The filter that a level spells. -/
def filter (level : String) : Except TelemetryError LogFilter :=
  match LogFilter.parse? level with
  | some f => .ok f
  | none => .error (.logging "Invalid log level: invalid filter directive")

end LogSettings
end Gatehouse
