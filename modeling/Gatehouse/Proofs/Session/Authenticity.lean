import Mathlib.Control.Monad.Basic
import Gatehouse.Proofs.Json.Record
import Gatehouse.Proofs.Text.Base64Url
import Gatehouse.Session.Resolver

/-!
# Sessions are authentic

Nobody is taken for a caller on the strength of a token that was not signed with the secret.

* `Token.IsSigned` — a token of three parts whose last part is the code of the first two.
* `Token.IsGenuine` — such a token whose header names the way of signing and whose payload holds
  four given values.
* `Token.verify_ends` — what verification can answer: the fault of a token about which nothing else
  is said, or an answer about a genuine token.
* `TokenResolver.sessions_rest_on_genuine_tokens` — the same for the sessions of requests.

The argument follows the order of the checks.  A check either ends with an error or goes on with
what it has found.  `Ends` says what is known in either case, and `Ends.bind` puts two checks
together, so there is one such lemma for each function of the verifier, and each cites those of the
functions it calls.
-/

set_option autoImplicit false

namespace Gatehouse
namespace Session
namespace Token

open Text (Base64Url.encode Base64Url.decode)

/-! ## Genuine tokens -/

/-- A token is signed with a secret: it is a header, a payload and a signature in Base64, with
points between them, and the signature is the code of what stands in front of it. -/
def IsSigned (secret header payload token : List UInt8) : Prop :=
  let message := Base64Url.encode header ++ point :: Base64Url.encode payload
  token = message ++ point :: Base64Url.encode (Crypto.Hmac.code secret message)

/-- A header names a way of signing. -/
def NamesAlgorithm (header : Json) (name : String) : Prop :=
  ∃ v, header.members "alg" = [v] ∧ Json.word? .json v = some name

/-- A value holds a payload: each of the four fields is there once, and has its value. -/
structure Payload.IsHeldBy (p : Payload) (v : Json) : Prop where
  provider : v.members "identity_provider" = [Json.str p.provider]
  role : v.members "app_role" = [Json.str p.role]
  userId : v.members "user_guid" = [Json.str p.userId]
  expiry : v.members "exp" = [Json.nat p.expiry]

/-- A token is genuine: it is signed with the secret in the way that its header names, and its
payload is a JSON text for the given values. -/
def IsGenuine (secret token : List UInt8) (p : Payload) : Prop :=
  ∃ header payload, IsSigned secret header payload token ∧
    (∃ h, Json.parseBytes header = some h ∧ NamesAlgorithm h "HS256") ∧
    ∃ v, Json.parseBytes payload = some v ∧ p.IsHeldBy v

/-! ## Headers and payloads -/

theorem namesAlgorithm_of_algorithmOf? {header : Json} {name : String}
    (h : algorithmOf? header = some name) : NamesAlgorithm header name := by
  simp only [algorithmOf?] at h
  split at h
  · split at h
    · split at h
      · next v hv =>
        obtain ⟨word, hword, h⟩ := Option.bind_eq_some_iff.1 h
        split at h
        · cases h
          exact ⟨v, hv, hword⟩
        · cases h
      · cases h
    · cases h
  · cases h

theorem eq_str_of_text? {v : Json} {t : String} (h : Json.text? v = some t) : v = Json.str t := by
  cases v <;> simp_all [Json.text?, Json.str]

theorem eq_nat_of_word64? {v : Json} {n : Nat} (h : Json.word64? v = some n) : v = Json.nat n := by
  simp only [Json.word64?] at h
  split at h
  · split at h
    · cases h
      rfl
    · cases h
  · cases h

theorem isHeldBy_of_payload? {ms : List (Option String × Json)} {p : Payload}
    (h : payload? (.object ms) = some p) : p.IsHeldBy (.object ms) := by
  simp only [payload?, Option.bind_eq_bind, Option.bind_eq_some_iff] at h
  obtain ⟨slots, hslots, provider, hprovider, role, hrole, userId, huserId, expiry, hexpiry, h⟩ := h
  cases h
  obtain ⟨v, hv, hp⟩ := Json.Slots.members_of_required? hslots rfl hprovider
  obtain ⟨w, hw, hr⟩ := Json.Slots.members_of_required? hslots rfl hrole
  obtain ⟨x, hx, hu⟩ := Json.Slots.members_of_required? hslots rfl huserId
  obtain ⟨y, hy, he⟩ := Json.Slots.members_of_required? hslots rfl hexpiry
  exact ⟨by rw [hv, eq_str_of_text? hp], by rw [hw, eq_str_of_text? hr],
    by rw [hx, eq_str_of_text? hu], by rw [hy, eq_nat_of_word64? he]⟩

theorem isHeldBy_of_soundPayload? {v w : Json} {p : Payload}
    (h : soundPayload? v = some (p, w)) : p.IsHeldBy v := by
  simp only [soundPayload?] at h
  split at h
  · next q hq =>
    split at h
    · next hsound =>
      cases h
      -- an array could be read as a payload too, but it has no registered fields
      cases v with
      | object ms => exact isHeldBy_of_payload? hq
      | _ => cases hsound
    · cases h
  · cases h

/-! ## Checks -/

/-- A check ends with an answer of which one thing is known, or with an error of which another
is. -/
def Ends {α : Type} (x : Except SessionError α) (P : α → Prop) (E : SessionError → Prop) : Prop :=
  match x with
  | .ok a => P a
  | .error e => E e

/-- Nothing is known but that the token has a fault. -/
def IsFault (e : SessionError) : Prop :=
  ∃ f, e = .malformed f

namespace Ends

variable {α β : Type} {x : Except SessionError α} {P : α → Prop} {E : SessionError → Prop}

theorem ok {a : α} (h : Ends x P E) (hx : x = .ok a) : P a := by
  subst hx
  exact h

theorem error {e : SessionError} (h : Ends x P E) (hx : x = .error e) : E e := by
  subst hx
  exact h

/-- A check that ends with one answer goes on with the next check. -/
theorem bind {f : α → Except SessionError β} {Q : β → Prop} (h : Ends x P E)
    (hf : ∀ a, P a → Ends (f a) Q E) : Ends (x >>= f) Q E := by
  cases x with
  | ok a => exact hf a h
  | error e => exact h

theorem mono {E' : SessionError → Prop} (h : Ends x P E) (hE : ∀ e, E e → E' e) : Ends x P E' := by
  cases x with
  | ok a => exact h
  | error e => exact hE e h

end Ends

/-! ## The parts of a token -/

theorem eq_append_of_splitAtLastPoint {bs : List UInt8} {p : List UInt8 × List UInt8}
    (h : splitAtLastPoint bs = some p) : bs = p.1 ++ point :: p.2 := by
  induction bs generalizing p with
  | nil => cases h
  | cons b bs ih =>
    simp only [splitAtLastPoint] at h
    split at h
    · next q hq =>
      cases h
      rw [List.cons_append, ← ih hq]
    · split at h
      · next hb =>
        cases h
        rw [hb, List.nil_append]
      · cases h

theorem eq_append_of_parts? {token : List UInt8} {parts : Parts} (h : parts? token = some parts) :
    token = parts.message ++ point :: parts.signature := by
  simp only [parts?, Option.bind_eq_bind, Option.bind_eq_some_iff] at h
  obtain ⟨p, hp, q, hq, h⟩ := h
  cases h
  rw [eq_append_of_splitAtLastPoint hp, eq_append_of_splitAtLastPoint hq]
  rfl

theorem partBytes_ends (p : List UInt8) :
    Ends (partBytes p) (fun bs => p = Base64Url.encode bs) IsFault := by
  rw [partBytes]
  split
  · next bs hbs => exact Text.Base64Url.eq_encode_of_decode hbs
  · exact ⟨_, rfl⟩

theorem partValue_ends {α : Type} (p : List UInt8) (read : Json → Option α) :
    Ends (partValue p read)
      (fun a => ∃ bs v, p = Base64Url.encode bs ∧ Json.parseBytes bs = some v ∧ read v = some a)
      IsFault := by
  refine (partBytes_ends p).bind fun bs hp => ?_
  split
  · next a ha =>
    obtain ⟨v, hv, ha⟩ := Option.bind_eq_some_iff.1 ha
    exact ⟨bs, v, hp, hv, ha⟩
  · exact ⟨_, rfl⟩

/-! ## Verification -/

/-- What is known of the parts of a token when its signature has been checked. -/
structure Parts.IsSigned (parts : Parts) (secret token : List UInt8) : Prop where
  token_eq :
    token = parts.message ++ point :: Base64Url.encode (Crypto.Hmac.code secret parts.message)
  header : ∃ header h, parts.header = Base64Url.encode header ∧ Json.parseBytes header = some h ∧
    NamesAlgorithm h "HS256"

theorem authenticate_ends (secret token : List UInt8) :
    Ends (authenticate secret token) (fun parts => parts.IsSigned secret token) IsFault := by
  rw [authenticate]
  split
  · exact ⟨_, rfl⟩
  · next parts hparts =>
    refine (partValue_ends parts.header algorithmOf?).bind fun name hname => ?_
    dsimp only
    split
    · exact ⟨_, rfl⟩
    · next halgorithm =>
      refine (partBytes_ends parts.signature).bind fun signature hsignature => ?_
      split
      · exact ⟨_, rfl⟩
      · next hcode =>
        rw [ne_eq, Decidable.not_not] at halgorithm hcode
        subst halgorithm hcode
        obtain ⟨header, h, hheader, hh, hread⟩ := hname
        exact ⟨by rw [← hsignature, eq_append_of_parts? hparts],
          header, h, hheader, hh, namesAlgorithm_of_algorithmOf? hread⟩

/-- **Only genuine tokens are verified.**  A token that has no fault is genuine, whether it is still
good or has expired. -/
theorem verify_ends (secret : List UInt8) (now : Nat) (token : List UInt8) :
    Ends (verify secret now token) (fun p => IsGenuine secret token p ∧ now ≤ p.expiry)
      fun e => IsFault e ∨ e = .expired ∧ ∃ p, IsGenuine secret token p ∧ p.expiry < now := by
  refine ((authenticate_ends secret token).mono fun _ => .inl).bind fun parts hparts => ?_
  refine ((partValue_ends parts.payload soundPayload?).mono fun _ => .inl).bind fun pv hpv => ?_
  obtain ⟨p, w⟩ := pv
  obtain ⟨payload, v, hpayload, hv, hread⟩ := hpv
  obtain ⟨htoken, header, h, hheader, hh, hname⟩ := hparts
  have hgenuine : IsGenuine secret token p := by
    refine ⟨header, payload, ?_, ⟨h, hh, hname⟩, v, hv, isHeldBy_of_soundPayload? hread⟩
    rw [IsSigned, ← hheader, ← hpayload]
    exact htoken
  dsimp only
  split
  · next hexpired => exact .inr ⟨rfl, p, hgenuine, hexpired⟩
  · next hgood =>
    split
    · exact .inl ⟨_, rfl⟩
    · exact ⟨hgenuine, Nat.le_of_not_lt hgood⟩

end Token

namespace TokenResolver

open Token (IsGenuine Ends IsFault verify_ends)

/-- A token gives somebody a session: it is genuine and still good, and the claims are those that
its payload spells. -/
def Grants (secret : List UInt8) (now : Nat) (token : String) (c : Claims) : Prop :=
  ∃ p, IsGenuine secret (Text.bytes token) p ∧ now ≤ p.expiry ∧
    Claims.parse p.provider p.role p.userId = .ok c

/-- Why a token gives nobody a session: it has a fault, or it is genuine and no longer good, or it
is genuine and its payload spells no claims. -/
inductive Refuses (secret : List UInt8) (now : Nat) (token : String) : SessionError → Prop where
  | malformed (f : TokenFault) : Refuses secret now token (.malformed f)
  | expired (p : Token.Payload) (genuine : IsGenuine secret (Text.bytes token) p)
      (late : p.expiry < now) : Refuses secret now token .expired
  | invalidClaims (p : Token.Payload) (cause : ClaimsError)
      (genuine : IsGenuine secret (Text.bytes token) p) (good : now ≤ p.expiry)
      (spells : Claims.parse p.provider p.role p.userId = .error cause) :
      Refuses secret now token (.invalidClaims cause)

theorem decode_ends (r : TokenResolver) (now : Nat) (token : String) :
    Ends (r.decode now token) (Grants r.secret now token) (Refuses r.secret now token) := by
  rw [decode]
  refine ((verify_ends r.secret now (Text.bytes token)).mono fun e he => ?_).bind fun p hp => ?_
  · rcases he with ⟨f, rfl⟩ | ⟨rfl, p, hgenuine, hlate⟩
    · exact .malformed f
    · exact .expired p hgenuine hlate
  · split
    · next c hc => exact ⟨p, hp.1, hp.2, hc⟩
    · next cause hcause => exact .invalidClaims p cause hp.1 hp.2 hcause

/-- **Sessions rest on genuine tokens.**  If a token gives claims, it is signed with the secret, its
header names the way of signing, its payload is still good, and the claims are those that the
payload spells.  If a token is said to have expired, or to spell no claims, it is signed just so.
And a request has a session only through such a token. -/
theorem sessions_rest_on_genuine_tokens (r : TokenResolver) (now : Nat) :
    (∀ token c, r.decode now token = .ok c → Grants r.secret now token c) ∧
      (∀ token, r.decode now token = .error .expired →
        ∃ p, IsGenuine r.secret (Text.bytes token) p ∧ p.expiry < now) ∧
      (∀ token cause, r.decode now token = .error (.invalidClaims cause) →
        ∃ p, IsGenuine r.secret (Text.bytes token) p ∧ now ≤ p.expiry ∧
          Claims.parse p.provider p.role p.userId = .error cause) ∧
      ∀ request c, r.resolve now request = .ok c →
        ∃ token, r.extract? request.headers = some token ∧ Grants r.secret now token c := by
  refine ⟨fun token c h => (decode_ends r now token).ok h, fun token h => ?_,
    fun token cause h => ?_, fun request c h => ?_⟩
  · cases (decode_ends r now token).error h with
    | expired p genuine late => exact ⟨p, genuine, late⟩
  · cases (decode_ends r now token).error h with
    | invalidClaims p cause genuine good spells => exact ⟨p, genuine, good, spells⟩
  · rw [resolve] at h
    split at h
    · cases h
    · next token htoken => exact ⟨token, htoken, (decode_ends r now token).ok h⟩

/-- A token signed with `s3cret` about an administrator, good up to the ninth second. -/
def administratorToken : String :=
  "eyJhbGciOiJIUzI1NiJ9." ++
    "eyJpZGVudGl0eV9wcm92aWRlciI6ImlkaXIiLCJhcHBfcm9sZSI6ImNhc19hZG1pbiIsInVzZXJfZ3VpZCI6" ++
    "InUiLCJleHAiOjl9." ++
    "WyBRKBlEPXMLh4slNYpPPjQ_NXeGRgMUg_yqjBgmoJQ"

/-- The same about a caller whose role is not one of the provider's. -/
def misfitToken : String :=
  "eyJhbGciOiJIUzI1NiJ9." ++
    "eyJpZGVudGl0eV9wcm92aWRlciI6ImlkaXIiLCJhcHBfcm9sZSI6ImluZHVzdHJ5X3VzZXIiLCJ1c2VyX2d1" ++
    "aWQiOiJ1IiwiZXhwIjo5fQ." ++
    "uDKO7-ziApMzNtnnMKWWIY47SodmpDXQuOM9Ww20C-M"

theorem sessions_rest_on_genuine_tokens_at_nine :
    let r : TokenResolver := { secret := Text.bytes "s3cret" }
    let c : Claims := ⟨.casAdmin, "u", by decide⟩
    let misfit := ClaimsError.providerMismatch .idir .industryUser
    let request : Request :=
      ⟨"/", [], ⟨[⟨"authorization", Text.bytes ("Bearer " ++ administratorToken)⟩]⟩⟩
    (r.decode 9 administratorToken = .ok c ∧ Grants r.secret 9 administratorToken c) ∧
      (r.decode 10 administratorToken = .error .expired ∧
        ∃ p, IsGenuine r.secret (Text.bytes administratorToken) p ∧ p.expiry < 10) ∧
      (r.decode 9 misfitToken = .error (.invalidClaims misfit) ∧
        ∃ p, IsGenuine r.secret (Text.bytes misfitToken) p ∧ 9 ≤ p.expiry ∧
          Claims.parse p.provider p.role p.userId = .error misfit) ∧
      (r.resolve 9 request = .ok c ∧
        ∃ token, r.extract? request.headers = some token ∧ Grants r.secret 9 token c) := by
  intro r c misfit request
  -- together, so that the signature is computed once
  obtain ⟨hgood, hlate⟩ : r.decode 9 administratorToken = .ok c ∧
      r.decode 10 administratorToken = .error .expired := by decide +kernel
  have hmisfit : r.decode 9 misfitToken = .error (.invalidClaims misfit) := by decide +kernel
  have hfound : r.extract? request.headers = some administratorToken := by decide +kernel
  have hrequest : r.resolve 9 request = .ok c := by rw [resolve, hfound, ← hgood]
  have hrests := sessions_rest_on_genuine_tokens r
  exact ⟨⟨hgood, (hrests 9).1 _ _ hgood⟩, ⟨hlate, (hrests 10).2.1 _ hlate⟩,
    ⟨hmisfit, (hrests 9).2.2.1 _ _ hmisfit⟩, hrequest, (hrests 9).2.2.2 _ _ hrequest⟩

end TokenResolver
end Session
end Gatehouse
