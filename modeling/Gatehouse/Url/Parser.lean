import Gatehouse.Url.Domain

/-!
# Reading URLs

A text is first freed of the blanks and controls at its ends and of all tabs and line breaks.  Then
it is cut: the scheme at the first colon, the fragment at the first `#`, the query at the first `?`,
and in what is left of a special URL the authority ends at the first slash, whichever way it leans.

A segment `.` of a path stands for nothing and a segment `..` takes back the segment before it; both
may be spelled with `%2e` for the point.  If the last segment is one of them, an empty one takes its
place, so that the path still ends in a slash.
-/

set_option autoImplicit false

namespace Gatehouse
namespace Url

/-! ## Cutting -/

/-- Whether a character is dropped at the ends of a text. -/
def isEdge (c : Char) : Bool :=
  c.toNat ≤ 0x20

/-- Whether a character is dropped wherever it stands. -/
def isBreak (c : Char) : Bool :=
  c == '\t' || c == '\n' || c == '\r'

/-- The text without what is dropped before reading. -/
def cleaned (cs : List Char) : List Char :=
  (((cs.dropWhile isEdge).reverse.dropWhile isEdge).reverse).filter fun c => !isBreak c

/-- The scheme of a text in small letters, and what follows its colon. -/
def scheme? (cs : List Char) : Option (String × List Char) :=
  let isPart (c : Char) := c.isAlphanum || c == '+' || c == '-' || c == '.'
  match cs.takeWhile isPart, cs.dropWhile isPart with
  | c :: scheme, ':' :: rest =>
    if c.isAlpha then some (String.ofList ((c :: scheme).map Char.toLower), rest) else none
  | _, _ => none

/-! ## Paths -/

/-- Whether a character separates the segments of a path. -/
def isSlash (special : Bool) (c : Char) : Bool :=
  c == '/' || (special && c == '\\')

/-- A segment with every `%2e` as a point. -/
def dotted : List Char → List Char
  | '%' :: '2' :: c :: cs =>
    if c == 'e' || c == 'E' then '.' :: dotted cs else '%' :: dotted ('2' :: c :: cs)
  | c :: cs => c :: dotted cs
  | [] => []

/-- Whether a segment stands for nothing. -/
def isHere (segment : List Char) : Bool :=
  dotted segment == ['.']

/-- Whether a segment takes back the one before it. -/
def isUp (segment : List Char) : Bool :=
  dotted segment == ['.', '.']

/-- The segments of a path after those that stand for a step have been taken; the segments before
are given backwards. -/
def walk (before : List String) : List (List Char) → List String
  | [] => before.reverse
  | s :: ss =>
    if isUp s then walk (if ss.isEmpty then "" :: before.tail else before.tail) ss
    else if isHere s then walk (if ss.isEmpty then "" :: before else before) ss
    else walk (String.ofList (Percent.encode Percent.inPath s) :: before) ss

/-- The path of a text that starts with a slash, or is empty. -/
def hierarchical (special : Bool) (cs : List Char) : Path :=
  match cs with
  | [] => if special then .segments [""] else .segments []
  | c :: rest =>
    .segments
      (walk [] (Text.pieces (isSlash special) (if isSlash special c then rest else c :: rest)))

/-! ## Authorities -/

/-- The text in front of the last occurrence of a character and the text behind it, if it occurs. -/
def cutAtLast? (sep : Char) : List Char → Option (List Char × List Char)
  | [] => none
  | c :: cs =>
    match cutAtLast? sep cs with
    | some (front, behind) => some (c :: front, behind)
    | none => if c = sep then some ([], cs) else none

/-- The host of an authority and what follows it from its colon on: a colon in brackets is part of
the host. -/
def splitHost : Bool → List Char → List Char × List Char
  | _, [] => ([], [])
  | inside, c :: cs =>
    if c = ':' && !inside then ([], c :: cs)
    else
      let (host, rest) := splitHost (if c = '[' then true else if c = ']' then false else inside) cs
      (c :: host, rest)

/-- The port that some digits spell. -/
def port? (scheme : String) (digits : List Char) : Except UrlError (Option Nat) :=
  match Net.Ipv4.number? 10 digits with
  | some n =>
    if 65535 < n then .error .port
    else if digits.isEmpty || defaultPort? scheme = some n then .ok none
    else .ok (some n)
  | none => .error .port

/-- The host of a text, which may be empty only if the scheme is not special. -/
def hostOf (special : Bool) (cs : List Char) : Except UrlError (Option Host) :=
  if special then
    if cs.isEmpty then .error .emptyHost else (Host.ofSpecial cs).map some
  else if cs.isEmpty then .ok none
  else (Host.ofOther cs).map some

/-- The parts of an authority, put into a URL; whether something follows it is given, because an
empty name may not stand in front of an empty host. -/
def withAuthority (url : Url) (cs : List Char) (followed : Bool) : Except UrlError Url := do
  let special := isSpecial url.scheme
  let (userinfo, rest) := match cutAtLast? '@' cs with
    | some (u, rest) => (some u, rest)
    | none => (none, cs)
  if userinfo = some [] && rest.isEmpty && followed then throw .emptyHost
  let (name, password) := Text.cut (· == ':') (userinfo.getD [])
  let encode (part : List Char) := String.ofList (Percent.encode Percent.inUserinfo part)
  let url := { url with username := encode name, password := encode (password.getD []) }
  let (hostText, portText) := splitHost false rest
  let host ← hostOf special hostText
  if host.isNone && !(portText.isEmpty && url.credentials.isEmpty) then throw .emptyHost
  let port ← port? url.scheme portText.tail
  return { url with host := some (host.getD (.name "")), port }

/-! ## Whole URLs -/

/-- The parts of the rest of a URL whose host is a machine with files; no host is this machine. -/
def withFilePath (url : Url) (cs : List Char) : Except UrlError Url := do
  match cs with
  | a :: b :: rest =>
    if isSlash true a && isSlash true b then
      let name := rest.takeWhile fun c => !isSlash true c
      let path := hierarchical true (rest.dropWhile fun c => !isSlash true c)
      if name.isEmpty then return { url with path }
      let host ← Host.ofSpecial name
      return { url with path, host := if host = .name "localhost" then none else some host }
    return { url with path := hierarchical true cs }
  | _ => return { url with path := hierarchical true cs }

/-- The parts of what stands between the scheme and the query, put into a URL. -/
def withRest (url : Url) (cs : List Char) : Except UrlError Url := do
  let special := isSpecial url.scheme
  let ofAuthority (cs : List Char) (followed : Bool) : Except UrlError Url := do
    let rest := cs.dropWhile fun c => !isSlash special c
    let url ←
      url.withAuthority (cs.takeWhile fun c => !isSlash special c) (followed || !rest.isEmpty)
    return { url with path := hierarchical special rest }
  let followed := url.query.isSome || url.fragment.isSome
  if url.scheme = "file" then url.withFilePath cs
  else if special then ofAuthority (cs.dropWhile (isSlash true)) followed
  else
    match cs with
    | '/' :: '/' :: rest => ofAuthority rest followed
    | '/' :: _ => return { url with path := hierarchical false cs }
    | _ =>
      return { url with path := .text (String.ofList (Percent.encode Percent.isControl cs)) }

/-- The URL that a text spells. -/
def parse (s : String) : Except UrlError Url := do
  match scheme? (cleaned s.toList) with
  | none => throw .relative
  | some (scheme, cs) =>
    let (cs, fragment) := Text.cut (· == '#') cs
    let (cs, query) := Text.cut (· == '?') cs
    let inQuery := if isSpecial scheme then Percent.inSpecialQuery else Percent.inQuery
    let url : Url :=
      { scheme
        path := .segments []
        query := query.map fun q => String.ofList (Percent.encode inQuery q)
        fragment := fragment.map fun f => String.ofList (Percent.encode Percent.inFragment f) }
    url.withRest cs

end Url
end Gatehouse
