/-!
# Arguments

What the program is asked to do.  Arguments are read from left to right: the first one that asks for
help or for the version, or that is not known, settles the matter, and of several configuration
files the last one counts.  A file that is announced and not named is no file.
-/

set_option autoImplicit false

namespace Gatehouse
namespace CommandLine

/-- What the program is asked to do. -/
inductive Invocation where
  | help
  | version
  | unknown (argument : String)
  /-- Start a gateway, perhaps with a configuration file. -/
  | start (configFile : Option String)
deriving Repr, DecidableEq

namespace Invocation

/-- What some arguments ask for; the configuration file named so far is given. -/
def ofArgs (configFile : Option String) : List String → Invocation
  | [] => .start configFile
  | [arg] =>
    if arg = "--config" ∨ arg = "-c" then .start none
    else if arg = "--help" ∨ arg = "-h" then .help
    else if arg = "--version" ∨ arg = "-v" then .version
    else .unknown arg
  | arg :: next :: rest =>
    if arg = "--config" ∨ arg = "-c" then ofArgs (some next) rest
    else if arg = "--help" ∨ arg = "-h" then .help
    else if arg = "--version" ∨ arg = "-v" then .version
    else .unknown arg

/-- What some arguments ask for. -/
def parse (args : List String) : Invocation :=
  ofArgs none args

end Invocation

/-- The text that is shown on request. -/
def helpText : String :=
  "Portico Gateway - authorization and role routing in front of a page server

USAGE:
    portico-gateway [OPTIONS]

OPTIONS:
    -c, --config <PATH>    Path to configuration file (TOML or JSON)
    -h, --help             Print help information
    -v, --version          Print version information

ENVIRONMENT VARIABLES:
    API_URL                               Registration backend base URL (required)
    NEXTAUTH_SECRET                       Session token signing secret (required)
    PORTICO__GATEWAY__LISTEN_ADDR         Listen address (default: 0.0.0.0:8080)
    PORTICO__GATEWAY__UPSTREAM_URL        Page server URL (default: http://127.0.0.1:3000)
    PORTICO__APP__PROFILE                 administration | registration | dashboard
    PORTICO__BACKEND__RULE_TIMEOUT_MS     Business-rule bound (default: 8000)
    PORTICO__TELEMETRY__LOG_LEVEL         Log filter (default: info)

A .env file in the working directory is read if present. Without --config,
./portico.toml is used when it exists.

EXAMPLES:
    portico-gateway --config /etc/portico/gateway.toml
    API_URL=http://localhost:8000/api NEXTAUTH_SECRET=dev portico-gateway

"

end CommandLine
end Gatehouse
