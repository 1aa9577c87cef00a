import Gatehouse.Config.Dotenv
import Gatehouse.Config.Record
import Gatehouse.Config.Validation
import Gatehouse.Json.Reader
import Gatehouse.Toml.Reader

/-!
# Layers of a configuration

A configuration is put together in layers, of which later ones count more: a preset, then a file or
a text, then the environment.  A file or a text does not add to what was there before but takes its
place, since every setting that it leaves out has its default.

A `Loader` is a configuration under construction.  The environment is not part of it, as an
environment file changes it for the whole program; `load` is given the one that counts.
-/

set_option autoImplicit false

namespace Gatehouse

/-- What stands under a name in a directory. -/
inductive FileEntry where
  | file (content : List UInt8)
  | directory
deriving Repr, DecidableEq

/-- The contents of a directory. -/
abbrev Directory := List (String × FileEntry)

/-- The name under which a directory has what a path leads to: a segment `.` leads nowhere. -/
def Directory.key (path : String) : String :=
  if path.startsWith "/" then path
  else "/".intercalate (((Path.segments path.toList).filter (· != ['.'])).map String.ofList)

/-- Whether a path only leads upwards, or nowhere, so that a directory is at its end. -/
def Directory.isUpward (path : String) : Bool :=
  (Path.segments path.toList).all fun s => s == ['.'] || s == ['.', '.']

/-- What a path leads to.  No path leads through a file. -/
def Directory.entry? (files : Directory) (path : String) : Option FileEntry :=
  let last := (Text.pieces (· == '/') path.toList).getLast?
  if path.isEmpty then none
  else if isUpward path then some .directory
  else
    match files.lookup (key path) with
    | some (.file content) =>
      if last = some [] || last = some ['.'] then none else some (.file content)
    | entry => entry

/-- A configuration under construction. -/
structure Loader where
  config : Config := {}
  /-- What the names of the variables that count begin with. -/
  variablePrefix : Option String := none
  fileLoaded : Bool := false
deriving Repr, DecidableEq

namespace Loader

/-- From the defaults. -/
def withDefaults (l : Loader) : Loader :=
  { l with config := {} }

/-- From the preset for development. -/
def withDevelopment (l : Loader) : Loader :=
  { l with config := .development }

/-- With the variables that have a prefix, which is taken in capitals. -/
def withPrefix (l : Loader) (start : String) : Loader :=
  { l with variablePrefix := some (Text.upper start) }

/-- The configuration of a TOML document. -/
def ofToml (text : String) : Except ConfigError Config :=
  match (Toml.parse? text).bind (Config.ofJson? .toml) with
  | some c => .ok c
  | none => .error .toml

/-- The configuration of a JSON text. -/
def ofJson (text : String) : Except ConfigError Config :=
  match (Json.parse text).bind (Config.ofJson? .json) with
  | some c => .ok c
  | none => .error .json

/-- The configuration of a text in a format, which is named in letters of any case. -/
def withText (l : Loader) (text format : String) : Except ConfigError Loader :=
  match Text.lower format with
  | "toml" => (ofToml text).map fun c => { l with config := c }
  | "json" => (ofJson text).map fun c => { l with config := c }
  | _ => .error (.inconsistent ("unsupported configuration format: " ++ format))

/-- The last segment of a path. -/
def fileName (path : String) : List Char :=
  ((Text.pieces (· == '/') path.toList).getLast?).getD []

/-- What follows the last point in the name of a file, unless the name starts with it. -/
def suffix? (path : String) : Option String :=
  let name := fileName path
  match name.reverse.dropWhile (· != '.') with
  | [] => none
  | [_] => none
  | _ => some (String.ofList (name.reverse.takeWhile (· != '.')).reverse)

/-- The configuration of a text that stands in a file. -/
def ofFile (path text : String) : Except ConfigError Config :=
  match (suffix? path).map Text.lower with
  | some "toml" => ofToml text
  | some "json" => ofJson text
  | _ => .error (.inconsistent ("unsupported configuration file format: " ++ path))

/-- The configuration of a file, which must exist. -/
def withFile (l : Loader) (files : Directory) (path : String) : Except ConfigError Loader :=
  match files.entry? path with
  | none => .error (.fileNotFound path)
  | some .directory => .error (.unreadable path "Is a directory (os error 21)")
  | some (.file content) =>
    match Text.Utf8.decode? content with
    | none => .error (.unreadable path "stream did not contain valid UTF-8")
    | some text => (ofFile path text).map fun c => { l with config := c, fileLoaded := true }

/-- The configuration of a file, if it exists. -/
def withOptionalFile (l : Loader) (files : Directory) (path : String) : Except ConfigError Loader :=
  match files.entry? path with
  | none => .ok l
  | some _ => l.withFile files path

/-- The environment after the environment file of a directory, if there is one. -/
def dotenv (files : Directory) (env : Environment) : Except ConfigError Environment :=
  match files.lookup ".env" with
  | some (.file content) =>
    match Dotenv.load env content with
    | .ok env => .ok env
    | .error e => .error (.inconsistent ("failed to load .env file: " ++ e.message))
  | _ => .ok env

/-- The configuration with what the environment says, if a gateway can start with it. -/
def load (l : Loader) (env : Environment) : Except ConfigError Config := do
  let c ← l.config.withEnvironment env l.variablePrefix
  c.validate
  return c

end Loader
end Gatehouse
