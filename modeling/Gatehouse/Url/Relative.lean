import Gatehouse.Url.Parser

/-!
# URLs that are seen from others

A reply may say where else to ask in a text that leaves out what the URL of the request has already
said: a scheme, a server, the folders of a path.  `join` puts in front of such a text what it leaves
out and reads the whole.  It is meant for URLs of the web, which have a host and a path of segments.
-/

set_option autoImplicit false

namespace Gatehouse
namespace Url

/-- The text of the scheme and the server of a URL. -/
def origin (url : Url) : String :=
  url.scheme ++ ":" ++ url.authority

/-- The text of the folders of a path, which ends in a slash. -/
def Path.folders : Path → String
  | .text _ => "/"
  | .segments list => (Path.segments list.dropLast).render ++ "/"

/-- What a text that is seen from a URL leaves out: everything but the fragment, or the path and the
query, or the query alone, or all but the scheme. -/
def leftOut (base : Url) : List Char → String
  | [] | '#' :: _ => base.origin ++ base.path.render ++ marked "?" base.query
  | '?' :: _ => base.origin ++ base.path.render
  | c :: cs =>
    if !isSlash true c then base.origin ++ base.path.folders
    else if cs.head?.any (isSlash true) then base.scheme ++ ":"
    else base.origin

/-- The URL that a text spells where it is seen from another.  The scheme in front of it counts only
if it is another one, or if two slashes follow. -/
def join (base : Url) (text : String) : Except UrlError Url :=
  let seen (cs : List Char) := parse (base.leftOut cs ++ String.ofList cs)
  let cs := cleaned text.toList
  match scheme? cs with
  | none => seen cs
  | some (scheme, rest) =>
    if scheme = base.scheme ∧ (rest.takeWhile (isSlash true)).length < 2 then seen rest
    else parse (String.ofList cs)

-- some of the examples of RFC 3986, section 5.4
example :
    let base : Url :=
      { scheme := "http", host := some (.name "a"), path := .segments ["b", "c", "d"]
        query := some "q" }
    ["g", "./g/", "/g", "//g", "?y", "g?y", "#s", "", "..", "../../g", "http:g", "ftp://g/h"].map
        (fun text => (base.join text).toOption.map render) =
      ["http://a/b/c/g", "http://a/b/c/g/", "http://a/g", "http://g/", "http://a/b/c/d?y",
        "http://a/b/c/g?y", "http://a/b/c/d?q#s", "http://a/b/c/d?q", "http://a/b/", "http://a/g",
        "http://a/b/c/g", "ftp://g/h"].map some := by
  decide +kernel

/-- The server that is asked for a URL: its host, and the port there. -/
def server (url : Url) : Option Host × Option Nat :=
  (url.host, url.port.or (defaultPort? url.scheme))

end Url
end Gatehouse
