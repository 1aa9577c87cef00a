import Gatehouse.Telemetry.Registry
import Gatehouse.Telemetry.Settings
import Gatehouse.Trace

/-!
# Collecting telemetry

A running program has at most one registry of measurements and at most one log, and each can be set
up only once.  Until then, what is measured or logged is lost.  `Collector.absorb` is what becomes
of the events of a trace: measurements go to the registry, and lines that the filter lets through
are printed.
-/

set_option autoImplicit false

namespace Gatehouse

/-- The log of a running program. -/
structure LogSink where
  filter : LogFilter
  format : LogFormat
deriving Repr, DecidableEq

/-- What a running program has set up, and what it has printed. -/
structure Collector where
  registry : Option Registry := none
  log : Option LogSink := none
  /-- The printed lines, as objects; lines for people are not kept. -/
  printed : List Json := []

namespace Collector

/-- Set up the registry, with the bounds of its buckets. -/
def installMetrics (c : Collector) (enabled : Bool) (bounds : List Float) :
    Except TelemetryError Collector :=
  if !enabled then .ok c
  else if bounds.isEmpty then .error (.metrics "no buckets")
  else
    match c.registry with
    | some _ => .error (.metrics "a recorder is already installed")
    | none => .ok { c with registry := some { bounds } }

/-- The filter of a log: the one that the environment spells, if it spells one, or else the one of
the settings. -/
def filterFor (fromEnvironment : Option String) (settings : LogSettings) :
    Except TelemetryError LogFilter :=
  match fromEnvironment.bind LogFilter.parse? with
  | some f => .ok f
  | none => LogSettings.filter settings.level

/-- Set up the log. -/
def installLog (c : Collector) (fromEnvironment : Option String) (settings : LogSettings) :
    Except TelemetryError Collector :=
  if !settings.enabled then .ok c
  else
    match filterFor fromEnvironment settings with
    | .error e => .error e
    | .ok filter =>
      match c.log with
      | some _ => .error (.logging "a subscriber is already installed")
      | none => .ok { c with log := some { filter, format := settings.format } }

/-- Set up the log and then the registry. -/
def install (c : Collector) (fromEnvironment : Option String) (settings : LogSettings)
    (metricsEnabled : Bool) : Except TelemetryError Collector := do
  (← c.installLog fromEnvironment settings).installMetrics metricsEnabled Registry.defaultBounds

/-- What is published about the measurements, if they are collected. -/
def metrics? (c : Collector) : Option String :=
  c.registry.map Registry.render

/-- What a log prints of some lines. -/
def print (sink : Option LogSink) (lines : List LogLine) : List Json :=
  match sink with
  | some { filter, format := .json } => lines.filterMap filter.show?
  | _ => []

/-- The collector after the events of a trace. -/
def absorb (c : Collector) (t : Trace) : Collector :=
  { c with
    registry := c.registry.map fun r => r.record t.measurements
    printed := c.printed ++ print c.log t.lines }

end Collector
end Gatehouse
