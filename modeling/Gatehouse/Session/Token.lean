import Gatehouse.Crypto.Hmac
import Gatehouse.Json.Printer
import Gatehouse.Json.Reader
import Gatehouse.Json.Record
import Gatehouse.Session.Error
import Gatehouse.Text.Utf8

/-!
# Session tokens

A session is carried as a signed token (a JSON Web Token, RFC 7519, signed with HMAC and SHA-256): a
header, a payload and a signature, each in Base64 for URLs, with points between them.  `Token.sign`
makes one; `Token.verify` checks one and answers its payload.

The parts are checked in a fixed order, and the first fault counts.  The header comes first, because
it says how the token is signed; then the signature; and nothing of the payload is looked at before
the signature has been found to be right.  Of a token that is right in itself, the expiry is checked
before the audience: a token that names one is meant for somebody else.
-/

set_option autoImplicit false

namespace Gatehouse
namespace Session
namespace Token

open Text (Base64Url.encode Base64Url.decode)

/-- What a session token says about a caller, and until which second it is good. -/
structure Payload where
  provider : String
  role : String
  userId : String
  expiry : Nat
deriving Repr, DecidableEq

/-! ## Header -/

/-- The names of the ways of signing that a header may give. -/
def algorithms : List String :=
  ["HS256", "HS384", "HS512", "ES256", "ES384", "RS256", "RS384", "RS512", "PS256", "PS384",
    "PS512", "EdDSA"]

/-- The only way of signing that is accepted. -/
def algorithm : String := "HS256"

/-- The texts among the fields of a header. -/
def textFields : List String :=
  ["typ", "cty", "jku", "kid", "x5u", "x5t", "x5t#S256", "enc", "zip", "url", "nonce"]

/-- The lists of texts among the fields of a header. -/
def listFields : List String := ["x5c", "crit"]

/-- Whether a field is missing, or `null`, or can be read. -/
def admits {α : Type} (read : Json → Option α) (header : Json) (field : String) : Bool :=
  match header.members field with
  | [] => true
  | [v] => (Json.nullable? read v).isSome
  | _ => false

/-- The texts that a key of some type must have. -/
def keyFields : List (String × List String) :=
  [("EC", ["crv", "x", "y"]), ("RSA", ["n", "e"]), ("oct", ["k"]), ("OKP", ["crv", "x"])]

/-- Whether a value is a key: it has a type, and the texts that belong to it. -/
def key? (v : Json) : Option Unit :=
  match v.members "kty" with
  | [.string (some kind)] =>
    match keyFields.lookup kind with
    | some fields =>
      if fields.all fun f => (v.members f).any fun t => (Json.text? t).isSome then some () else none
    | none => none
  | _ => none

/-- The way of signing that a header names, if it is a proper header. -/
def algorithmOf? (header : Json) : Option String :=
  match header with
  | .object members =>
    if members.all (fun m => m.1.isSome) && textFields.all (admits Json.text? header) &&
        listFields.all (admits Json.texts? header) && admits key? header "jwk" then
      match header.members "alg" with
      | [v] => (Json.word? .json v).bind fun a => if algorithms.contains a then some a else none
      | _ => none
    else none
  | _ => none

/-! ## Payload -/

/-- The fields of the payload. -/
def layout : Json.Layout where
  names := [["identity_provider"], ["app_role"], ["user_guid"], ["exp"]]

/-- The payload that a value holds. -/
def payload? (v : Json) : Option Payload := do
  let slots ← Json.slots? .json layout v
  let provider ← slots.required? 0 Json.text?
  let role ← slots.required? 1 Json.text?
  let userId ← slots.required? 2 Json.text?
  let expiry ← slots.required? 3 Json.word64?
  return { provider, role, userId, expiry }

/-- Whether a value can be passed over where a text or a number was meant: it can unless it is a
list or a table with something in it, or a string without a text. -/
def isPassable (v : Json) : Bool :=
  match v with
  | .array (_ :: _) => false
  | .object (_ :: _) => false
  | .string t => t.isSome
  | _ => true

/-- Whether a value can be passed over where a text was meant. -/
def isPassableText (v : Json) : Bool :=
  match v with
  | .array _ => false
  | .object _ => false
  | .string t => t.isSome
  | _ => true

/-- Whether the other registered fields of a payload are well-formed.  Each may be given once. -/
def hasSoundRegistry (v : Json) : Bool :=
  match v with
  | .object _ =>
    (v.members "nbf").length ≤ 1 && (v.members "nbf").all isPassable &&
      (v.members "sub").length ≤ 1 && (v.members "sub").all isPassableText &&
      (v.members "iss").length ≤ 1 && (v.members "iss").all Json.hasTexts &&
      (v.members "aud").length ≤ 1 && (v.members "aud").all Json.hasTexts
  | _ => false

/-- Whether a payload names an audience. -/
def hasAudience (v : Json) : Bool :=
  (v.members "aud").any fun a => (Json.text? a).isSome || (Json.texts? a).isSome

/-! ## Signing -/

/-- The payload as an object. -/
def Payload.toJson (p : Payload) : Json :=
  Json.obj [("identity_provider", Json.str p.provider), ("app_role", Json.str p.role),
    ("user_guid", Json.str p.userId), ("exp", Json.nat p.expiry)]

/-- The header of every token that is signed here. -/
def header : Json :=
  Json.obj [("typ", Json.str "JWT"), ("alg", Json.str algorithm)]

/-- The point between the parts of a token. -/
def point : UInt8 := UInt8.ofNat '.'.toNat

/-- A value as a part of a token. -/
def part (v : Json) : List UInt8 :=
  Base64Url.encode (Text.bytes v.render)

/-- The token that carries a payload, signed with a secret. -/
def sign (secret : List UInt8) (p : Payload) : List UInt8 :=
  let message := part header ++ point :: part p.toJson
  message ++ point :: Base64Url.encode (Crypto.Hmac.code secret message)

/-! ## Verifying -/

/-- What stands in front of the last point of some bytes, and what stands behind it. -/
def splitAtLastPoint : List UInt8 → Option (List UInt8 × List UInt8)
  | [] => none
  | b :: bs =>
    match splitAtLastPoint bs with
    | some p => some (b :: p.1, p.2)
    | none => if b = point then some ([], bs) else none

/-- The parts of a token. -/
structure Parts where
  header : List UInt8
  payload : List UInt8
  signature : List UInt8
deriving Repr, DecidableEq

/-- What the signature of a token signs. -/
def Parts.message (p : Parts) : List UInt8 :=
  p.header ++ point :: p.payload

/-- The parts of a token; the last two points divide. -/
def parts? (token : List UInt8) : Option Parts := do
  let (message, signature) ← splitAtLastPoint token
  let (header, payload) ← splitAtLastPoint message
  return { header, payload, signature }

/-- The bytes of a part. -/
def partBytes (p : List UInt8) : Except SessionError (List UInt8) :=
  match Base64Url.decode p with
  | .ok bs => .ok bs
  | .error e => .error (.malformed (.base64 e))

/-- What a part holds. -/
def partValue {α : Type} (p : List UInt8) (read : Json → Option α) : Except SessionError α := do
  match (Json.parseBytes (← partBytes p)).bind read with
  | some a => return a
  | none => throw (.malformed .json)

/-- The parts of a token whose signature is right. -/
def authenticate (secret token : List UInt8) : Except SessionError Parts :=
  match parts? token with
  | none => .error (.malformed .parts)
  | some parts => do
    if (← partValue parts.header algorithmOf?) ≠ algorithm then throw (.malformed .algorithm)
    if (← partBytes parts.signature) ≠ Crypto.Hmac.code secret parts.message then
      throw (.malformed .signature)
    return parts

/-- A payload together with the value it was read from. -/
def soundPayload? (v : Json) : Option (Payload × Json) :=
  match payload? v with
  | some p => if hasSoundRegistry v then some (p, v) else none
  | none => none

/-- The payload of a token that is right in every respect at a given second. -/
def verify (secret : List UInt8) (now : Nat) (token : List UInt8) :
    Except SessionError Payload := do
  let parts ← authenticate secret token
  let (p, v) ← partValue parts.payload soundPayload?
  if p.expiry < now then throw .expired
  if hasAudience v then throw (.malformed .audience)
  return p

end Token
end Session
end Gatehouse
