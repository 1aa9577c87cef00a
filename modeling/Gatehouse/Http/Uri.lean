/-!
# Request targets

What stands between the method and the version of a request: a path with an optional query, or `*`,
or a whole URI with a scheme, or an authority alone.  `Uri.parse` takes such a text apart.  It
checks which characters occur and nothing else: percent signs are not decoded, ports are not read,
and a fragment is cut off unseen.

The faults are reported in the order in which a reader from left to right meets them, with one
exception: a text that is too long is refused at sight.
-/

set_option autoImplicit false

namespace Gatehouse
namespace Http

/-- What can be wrong with a request target. -/
inductive UriError where
  | empty
  | tooLong
  | character
  | format
  | authority
  | schemeTooLong
deriving Repr, DecidableEq

/-- The text of the fault. -/
def UriError.message : UriError → String
  | .empty => "empty string"
  | .tooLong => "uri too long"
  | .character => "invalid uri character"
  | .format => "invalid format"
  | .authority => "invalid authority"
  | .schemeTooLong => "scheme too long"

/-- A request target taken apart. -/
structure Uri where
  scheme : Option String
  authority : Option String
  path : String
  query : Option String
deriving Repr, DecidableEq

namespace Uri

/-- The greatest number of bytes in a target. -/
def maxLength : Nat := 65534

/-- The greatest length of a scheme. -/
def maxSchemeLength : Nat := 64

/-- The greatest number of colons in a host or in a name with its password. -/
def maxColons : Nat := 8

/-! ## Path and query -/

/-- Whether a character may stand in a path. -/
def isPathChar (c : Char) : Bool :=
  let n := c.toNat
  n == 0x21 || n == 0x22 || (0x24 ≤ n && n ≤ 0x3B) || n == 0x3D || (0x40 ≤ n && n ≤ 0x5F) ||
    (0x61 ≤ n && n ≤ 0x7E) || 0x80 ≤ n

/-- Whether a character may stand in a query. -/
def isQueryChar (c : Char) : Bool :=
  let n := c.toNat
  n == 0x21 || (0x24 ≤ n && n ≤ 0x3B) || n == 0x3D || (0x3F ≤ n && n ≤ 0x7E) || 0x80 ≤ n

/-- Whether a character ends a path. -/
def endsPath (c : Char) : Bool :=
  c == '?' || c == '#'

/-- The path and the query of a text that starts with a path. -/
def splitPath (cs : List Char) : Except UriError (List Char × Option (List Char)) :=
  let path := cs.takeWhile fun c => !endsPath c
  if !path.all isPathChar then .error .character
  else
    match cs.dropWhile fun c => !endsPath c with
    | '?' :: rest =>
      let query := rest.takeWhile (· != '#')
      if query.all isQueryChar then .ok (path, some query) else .error .character
    | _ => .ok (path, none)

/-! ## Authority -/

/-- Whether a character may stand in an authority, the percent sign aside. -/
def isAuthorityChar (c : Char) : Bool :=
  c.isAlphanum || "!$&'()*+,-.:;=@[]_~".toList.contains c

/-- Whether a character ends an authority. -/
def endsAuthority (c : Char) : Bool :=
  c == '/' || c == '?' || c == '#'

/-- What has been seen of an authority: the colons since the last `@` or `]`, the brackets, whether
a percent sign is left unexplained, and whether an `@` came last. -/
structure Seen where
  colons : Nat := 0
  opened : Bool := false
  closed : Bool := false
  percent : Bool := false
  atSign : Bool := false
deriving Repr, DecidableEq

/-- What has been seen after one more character of an authority. -/
def Seen.step (s : Seen) (c : Char) : Except UriError Seen :=
  if c = ':' then
    if maxColons ≤ s.colons then .error .authority
    else .ok { s with colons := s.colons + 1, atSign := false }
  else if c = '[' then
    if s.percent || s.opened then .error .authority
    else .ok { s with opened := true, atSign := false }
  else if c = ']' then
    if !s.opened || s.closed then .error .authority
    else .ok { s with closed := true, colons := 0, percent := false, atSign := false }
  else if c = '@' then .ok { s with colons := 0, percent := false, atSign := true }
  else if c = '%' then .ok { s with percent := true, atSign := false }
  else if isAuthorityChar c then .ok { s with atSign := false }
  else .error .character

/-- Whether what has been seen is a whole authority. -/
def Seen.isComplete (s : Seen) : Bool :=
  s.opened == s.closed && s.colons ≤ 1 && !s.atSign && !s.percent

/-- The authority that a text starts with, and the rest; it may be empty if the text is not. -/
def splitAuthority (cs : List Char) : Except UriError (List Char × List Char) := do
  if cs.isEmpty then throw .empty
  let authority := cs.takeWhile fun c => !endsAuthority c
  let seen ← authority.foldlM Seen.step {}
  if seen.isComplete then return (authority, cs.dropWhile fun c => !endsAuthority c)
  throw .authority

/-! ## Scheme -/

/-- Whether a character may stand in a scheme. -/
def isSchemeChar (c : Char) : Bool :=
  c.isAlphanum || c == '+' || c == '-' || c == '.' || c == '~'

/-- The scheme of a text and what follows `://`, if the text has a scheme. -/
def splitScheme (cs : List Char) : Except UriError (Option (List Char × List Char)) :=
  let scheme := cs.takeWhile isSchemeChar
  match cs.dropWhile isSchemeChar with
  | ':' :: '/' :: '/' :: rest =>
    if cs.length ≤ 3 then .ok none
    else if maxSchemeLength < scheme.length then .error .schemeTooLong
    else .ok (some (scheme, rest))
  | _ => .ok none

/-! ## Whole targets -/

/-- A text that is an authority and nothing else. -/
def ofAuthority (cs : List Char) (trailing : UriError) : Except UriError Uri := do
  let (authority, rest) ← splitAuthority cs
  if rest.isEmpty then return ⟨none, some (String.ofList authority), "", none⟩
  throw trailing

/-- A text with a scheme, after the scheme. -/
def ofRest (scheme cs : List Char) : Except UriError Uri := do
  let (authority, rest) ← splitAuthority cs
  if authority.isEmpty then throw .format
  let (path, query) ← splitPath rest
  let path := if path.isEmpty then ['/'] else path
  return ⟨some (String.ofList scheme), some (String.ofList authority), String.ofList path,
    query.map String.ofList⟩

/-- The parts of a request target. -/
def parse (s : String) : Except UriError Uri := do
  if maxLength < s.utf8ByteSize then throw .tooLong
  match s.toList with
  | [] => throw .empty
  | '/' :: rest =>
    let (path, query) ← splitPath ('/' :: rest)
    return ⟨none, none, String.ofList path, query.map String.ofList⟩
  | ['*'] => return ⟨none, none, "*", none⟩
  | [c] => ofAuthority [c] .character
  | cs =>
    match ← splitScheme cs with
    | some (scheme, rest) => ofRest scheme rest
    | none => ofAuthority cs .format

end Uri
end Http
end Gatehouse
