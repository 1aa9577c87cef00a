import Gatehouse.Net.Ipv6

/-!
# URLs

The parts of a URL, and the text that is written from them.  The schemes of the web are *special*: a
URL with one of them always has a host and a path, a backslash in it counts as a slash, and a port
that goes without saying is left out.

The path of a URL is a list of segments, unless the URL has neither a host nor a slash after its
scheme; then it is a text that means something only to those who know the scheme.
-/

set_option autoImplicit false

namespace Gatehouse

/-- What stands where the host of a URL is named. -/
inductive Url.Host where
  | name (ascii : String)
  | v4 (address : Net.Ipv4)
  | v6 (address : Net.Ipv6)
deriving Repr, DecidableEq

/-- The path of a URL. -/
inductive Url.Path where
  /-- A text without structure. -/
  | text (path : String)
  | segments (list : List String)
deriving Repr, DecidableEq

/-- A URL taken apart. -/
structure Url where
  scheme : String
  username : String := ""
  password : String := ""
  host : Option Url.Host := none
  /-- The port, unless it goes without saying. -/
  port : Option Nat := none
  path : Url.Path
  query : Option String := none
  fragment : Option String := none
deriving Repr, DecidableEq

/-- What can be wrong with the text of a URL. -/
inductive UrlError where
  | emptyHost
  | port
  | domain
  | v4
  | v6
  | character
  | relative
deriving Repr, DecidableEq

/-- The text of the fault. -/
def UrlError.message : UrlError → String
  | .emptyHost => "empty host"
  | .port => "invalid port number"
  | .domain => "invalid international domain name"
  | .v4 => "invalid IPv4 address"
  | .v6 => "invalid IPv6 address"
  | .character => "invalid domain character"
  | .relative => "relative URL without a base"

namespace Url

/-! ## Schemes -/

/-- The special schemes with the ports that go without saying. -/
def specialSchemes : List (String × Option Nat) :=
  [("http", some 80), ("https", some 443), ("ws", some 80), ("wss", some 443), ("ftp", some 21),
    ("file", none)]

/-- Whether a scheme is special. -/
def isSpecial (scheme : String) : Bool :=
  (specialSchemes.lookup scheme).isSome

/-- The port that goes without saying. -/
def defaultPort? (scheme : String) : Option Nat :=
  (specialSchemes.lookup scheme).join

/-! ## Writing -/

/-- The text of a host. -/
def Host.render : Host → String
  | .name n => n
  | .v4 a => a.render
  | .v6 a => "[" ++ a.render ++ "]"

/-- The text of a path. -/
def Path.render : Path → String
  | .text t => t
  | .segments ss => String.join (ss.map fun s => "/" ++ s)

/-- The name with the password, as they stand in front of a host. -/
def credentials (url : Url) : String :=
  if url.username.isEmpty && url.password.isEmpty then ""
  else if url.password.isEmpty then url.username ++ "@"
  else url.username ++ ":" ++ url.password ++ "@"

/-- A part with its mark in front, if it is there. -/
def marked (mark : String) : Option String → String
  | none => ""
  | some t => mark ++ t

/-- Everything between the scheme and the path. -/
def authority (url : Url) : String :=
  match url.host with
  | some host =>
    "//" ++ url.credentials ++ host.render ++ marked ":" (url.port.map fun n => toString n)
  | none =>
    match url.path with
    | .segments ("" :: _ :: _) => "/."
    | _ => if url.scheme = "file" then "//" else ""

/-- The text of a URL. -/
def render (url : Url) : String :=
  url.scheme ++ ":" ++ url.authority ++ url.path.render ++ marked "?" url.query ++
    marked "#" url.fragment

/-- Whether a URL names a host. -/
def hasHost (url : Url) : Bool :=
  match url.host with
  | none => false
  | some (.name n) => !n.isEmpty
  | some _ => true

/-- The URL without the name and the password in it. -/
def withoutCredentials (url : Url) : Url :=
  { url with username := "", password := "" }

end Url
end Gatehouse
