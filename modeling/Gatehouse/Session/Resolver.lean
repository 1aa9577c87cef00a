import Gatehouse.Request
import Gatehouse.Session.Cookies
import Gatehouse.Session.Token
import Gatehouse.Text.Quoted

/-!
# Finding the session of a request

A `Resolver` says who sent a request, or why that cannot be said.  `TokenResolver` looks for a
token: first in the cookies, one name after the other, and then, if it may, in the `authorization`
field.  The secret is not part of its description.
-/

set_option autoImplicit false

namespace Gatehouse
namespace Session

/-- Says who sent a request, given the second at which it arrived. -/
abbrev Resolver := Nat → Request → Except SessionError Claims

/-- The same answer for every request. -/
def fixed (claims : Option Claims) : Resolver := fun _ _ =>
  match claims with
  | some c => .ok c
  | none => .error .absent

/-- The names of the cookies in which a session is looked for unless others are configured. -/
def defaultCookieNames : List String :=
  ["__Secure-next-auth.session-token", "next-auth.session-token"]

/-- Looks for a signed token. -/
structure TokenResolver where
  secret : List UInt8
  cookieNames : List String := defaultCookieNames
  allowBearer : Bool := true
deriving Repr, DecidableEq

namespace TokenResolver

/-- The token in the `authorization` field. -/
def bearer? (headers : Headers) : Option (List Char) := do
  let field ← Headers.visible? (← headers.get? "authorization")
  let rest ← Path.afterStart? "Bearer ".toList field.toList
  let token := Text.trim rest
  if token.isEmpty then none else some token

/-- The token of a request: that of the first configured cookie that has a value, or else the one in
the `authorization` field. -/
def extract? (r : TokenResolver) (headers : Headers) : Option String :=
  let found := cookies headers
  let cookie := r.cookieNames.findSome? fun name => valueOf? name.toList found
  (cookie.or (if r.allowBearer then bearer? headers else none)).map String.ofList

/-- The claims of a token. -/
def decode (r : TokenResolver) (now : Nat) (token : String) : Except SessionError Claims := do
  let p ← Token.verify r.secret now (Text.bytes token)
  match Claims.parse p.provider p.role p.userId with
  | .ok c => return c
  | .error e => throw (.invalidClaims e)

/-- The resolver's answer to a request. -/
def resolve (r : TokenResolver) : Resolver := fun now request =>
  match r.extract? request.headers with
  | none => .error .absent
  | some token => r.decode now token

/-- A description of the resolver. -/
def describe (r : TokenResolver) : String :=
  "SessionTokenResolver \x7b cookie_names: " ++ Text.listed (r.cookieNames.map Text.quoted) ++
    ", allow_bearer: " ++ toString r.allowBearer ++ ", .. \x7d"

end TokenResolver
end Session
end Gatehouse
