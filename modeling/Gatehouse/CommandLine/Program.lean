import Gatehouse.CommandLine.Arguments
import Gatehouse.Config.Loader
import Gatehouse.Gateway.Server
import Gatehouse.Telemetry.Collector

/-!
# The program

What the program does with its arguments, its environment and the files around it, up to the point
where it would wait for requests.  A fault of the configuration, and one of telemetry, is reported
on standard error, because there is no log yet; all later ones go to the log, and the log to
standard output.
-/

set_option autoImplicit false

namespace Gatehouse
namespace CommandLine

/-- What surrounds a program when it is started. -/
structure Machine where
  args : List String
  files : Directory := []
  env : Environment := []
  bind : Gateway.Bind := fun _ => none

/-- What a program has printed and how it has ended; there is no exit code while it waits for
requests. -/
structure Outcome where
  exitCode : Option Nat
  stdout : String := ""
  stderr : String := ""
  /-- The lines of the log, which follow on standard output. -/
  log : List Json := []

/-- The end of a program with a message on standard error. -/
def failure (message : String) : Outcome where
  exitCode := some 1
  stderr := message ++ "\n"

/-- What the program was doing when a fault arose, the fault, and what lies behind it. -/
def inContext (context : String) (e : ConfigError) : String :=
  ": ".intercalate (context :: e.causes)

/-- The name of the configuration file that is read if none is named. -/
def defaultFile : String := "portico.toml"

/-- The start of the names of the variables that count. -/
def variablePrefix : String := "PORTICO"

/-- The loader after the configuration file. -/
def withConfigFile (files : Directory) : Option String → Except String Loader
  | some path =>
    (({} : Loader).withFile files path).mapError (inContext ("failed to load " ++ path))
  | none =>
    (({} : Loader).withOptionalFile files defaultFile).mapError
      (inContext ("failed to load " ++ defaultFile))

/-- The configuration, and the environment after the environment file; or what is wrong. -/
def configure (m : Machine) (configFile : Option String) :
    Except String (Config × Environment) := do
  let env ← (Loader.dotenv m.files m.env).mapError (inContext "failed to read .env")
  let loader ← withConfigFile m.files configFile
  let config ← ((loader.withPrefix variablePrefix).load env).mapError
    (inContext "invalid configuration")
  return (config, env)

/-- The part of the program that its log lines name. -/
def target : String := "portico_gateway"

/-- A log line of the program. -/
def line (level : LogLevel) (message : String) (fields : List (String × Json)) : Event :=
  .logged { level, target, message, fields }

/-- The log line with which a gateway starts. -/
def starting (c : Config) : Event :=
  line .info "starting portico gateway"
    [("version", Json.str Gateway.version), ("app", Vocabulary.toJson c.app.app),
      ("base_path", Json.str c.app.effectiveBasePath),
      ("listen", Json.str c.gateway.listenAddr), ("upstream", Json.str c.gateway.pagesUrl)]

/-- What happens when the gateway of a configuration starts, and its exit code if it ends. -/
def serve (c : Config) (bind : Gateway.Bind) : Trace × Option Nat :=
  match Gateway.listen c bind with
  | .error e => (⟨[starting c, line .error ("Server error: " ++ e.message) []]⟩, some 1)
  | .ok address =>
    let service := Gateway.Service.ofConfig c {} 0
    (⟨[starting c, Gateway.listening service address]⟩, none)

/-- Start a gateway. -/
def start (m : Machine) (configFile : Option String) : Outcome :=
  match configure m configFile with
  | .error e => failure (Gateway.programName ++ ": " ++ e)
  | .ok (config, env) =>
    match ({} : Collector).install (env.lookup "RUST_LOG") config.logSettings
        config.telemetry.metricsEnabled with
    | .error e => failure (Gateway.programName ++ ": " ++ e.message)
    | .ok collector =>
      let (trace, exitCode) := serve config m.bind
      { exitCode, log := (collector.absorb trace).printed }

/-- Run the program. -/
def run (m : Machine) : Outcome :=
  match Invocation.parse m.args with
  | .help => { exitCode := some 0, stdout := helpText }
  | .version =>
    { exitCode := some 0, stdout := Gateway.programName ++ " " ++ Gateway.version ++ "\n" }
  | .unknown arg => failure ("Unknown argument: " ++ arg ++ "\nUse --help for usage information")
  | .start configFile => start m configFile

end CommandLine
end Gatehouse
