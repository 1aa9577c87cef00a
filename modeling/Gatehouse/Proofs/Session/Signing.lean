import Gatehouse.Proofs.Json.Reading
import Gatehouse.Proofs.Session.Cookies
import Gatehouse.Proofs.Text.Base64Url
import Gatehouse.Session.Resolver

/-!
# Signed tokens can be used

A token that `Token.sign` makes is a token that `Token.verify` accepts, up to its last second, and
what is read from it is what was written into it.  This goes through four texts in each other: the
words that provider and role are spelled with, the JSON text of the payload, its bytes in Base64,
and the three parts with points between them.  No two of them may get in each other's way.

* `IsSpellingOf` — a text that spells a word, with capitals and blanks;
  `Claims.parse_of_isSpellingOf`.
* `Token.parts?_sign`, `Token.partValue_part` — the parts of a signed token, and what they hold.
* `Token.verify_sign` — a signed token is right until it expires.
* `TokenResolver.signed_sessions_are_found` — so is the session that it carries.
-/

set_option autoImplicit false

namespace Gatehouse

/-! ## Words and their spellings -/

/-- A text spells a word: there may be blanks on both sides, and each letter may be a capital. -/
def IsSpellingOf (s word : String) : Prop :=
  ∃ front middle behind, s.toList = front ++ (middle ++ behind) ∧ front.all Text.isBlank = true ∧
    behind.all Text.isBlank = true ∧
      List.Forall₂ (fun c w => c = w ∨ c = w.toUpper) middle word.toList

/-- Whether neither a character nor its capital is blank, and both have the character as small
letter. -/
def isPlainLetter (w : Char) : Bool :=
  !Text.isBlank w && !Text.isBlank w.toUpper && w.toLower == w && w.toUpper.toLower == w

theorem dropWhile_isBlank_of_free {cs : List Char} (h : ∀ c ∈ cs, Text.isBlank c = false) :
    cs.dropWhile Text.isBlank = cs := by
  cases cs with
  | nil => rfl
  | cons c cs => simp [h c List.mem_cons_self]

/-- Blanks on both sides of a text without blanks are what is trimmed. -/
theorem trim_of_free {front middle behind : List Char} (hfront : front.all Text.isBlank = true)
    (hbehind : behind.all Text.isBlank = true) (hmiddle : ∀ c ∈ middle, Text.isBlank c = false) :
    Text.trim (front ++ (middle ++ behind)) = middle := by
  rw [List.all_eq_true] at hfront hbehind
  rw [Text.trim, Text.trimStart, List.dropWhile_append_of_pos hfront]
  cases middle with
  | nil =>
    rw [List.nil_append, List.dropWhile_eq_nil_iff.2 hbehind]
    rfl
  | cons c cs =>
    have hback : ∀ d ∈ (c :: cs).reverse, Text.isBlank d = false := fun d hd =>
      hmiddle d (List.mem_reverse.1 hd)
    have hc : ¬ Text.isBlank c = true := by simp [hmiddle c List.mem_cons_self]
    rw [List.cons_append, List.dropWhile_cons_of_neg hc, Text.trimEnd, ← List.cons_append,
      List.reverse_append, List.dropWhile_append_of_pos (by simpa using hbehind),
      dropWhile_isBlank_of_free hback, List.reverse_reverse]

theorem of_forall₂_capital {cs ws : List Char} (hword : ws.all isPlainLetter = true)
    (h : List.Forall₂ (fun c w => c = w ∨ c = w.toUpper) cs ws) :
    cs.map Char.toLower = ws ∧ ∀ c ∈ cs, Text.isBlank c = false := by
  induction h with
  | nil => simp
  | cons hc hcs ih =>
    simp only [List.all_cons, Bool.and_eq_true, isPlainLetter, Bool.not_eq_true',
      beq_iff_eq] at hword
    obtain ⟨⟨⟨⟨hblank, hBlank⟩, hlower⟩, hLower⟩, hrest⟩ := hword
    obtain ⟨hmap, hfree⟩ := ih hrest
    rw [List.map_cons, hmap, List.forall_mem_cons]
    obtain rfl | rfl := hc
    · exact ⟨by rw [hlower], hblank, hfree⟩
    · exact ⟨by rw [hLower], hBlank, hfree⟩

theorem spelling_of_isSpellingOf {s word : String} (hword : word.toList.all isPlainLetter = true)
    (h : IsSpellingOf s word) : spelling s = word := by
  obtain ⟨front, middle, behind, hs, hfront, hbehind, hmiddle⟩ := h
  obtain ⟨hlower, hfree⟩ := of_forall₂_capital hword hmiddle
  rw [spelling, Text.lowerAscii, Text.trimmed, String.toList_ofList, hs,
    trim_of_free hfront hbehind hfree, hlower, String.ofList_toList]

variable {α : Type} [Vocabulary α]

/-- A spelling of a value's word is read as that value. -/
theorem ofWord?_spelling {a : α} {s : String}
    (hd : ((Vocabulary.all : List α).map Vocabulary.word).Nodup)
    (ha : a ∈ (Vocabulary.all : List α))
    (hword : (Vocabulary.word a).toList.all isPlainLetter = true)
    (h : IsSpellingOf s (Vocabulary.word a)) : Vocabulary.ofWord? (spelling s) = some a := by
  rw [spelling_of_isSpellingOf hword h, Vocabulary.ofWord?_word hd ha]

theorem Provider.parse_of_isSpellingOf {p : Provider} {s : String}
    (h : IsSpellingOf s (Vocabulary.word p)) : Provider.parse s = .ok p := by
  have hword : (Vocabulary.word p).toList.all isPlainLetter = true := by
    cases p <;> decide
  rw [parse, ofWord?_spelling (by decide) p.mem_all hword h]

theorem Role.parse_of_isSpellingOf {r : Role} {s : String}
    (h : IsSpellingOf s (Vocabulary.word r)) : Role.parse s = .ok r := by
  have hword : (Vocabulary.word r).toList.all isPlainLetter = true := by
    cases r <;> decide
  rw [parse, ofWord?_spelling (by decide) r.mem_all hword h]

/-- Claims are read from spellings of a provider and a role that belong together. -/
theorem Claims.parse_of_isSpellingOf {p : Provider} {r : Role} {provider role userId : String}
    (hp : IsSpellingOf provider (Vocabulary.word p)) (hr : IsSpellingOf role (Vocabulary.word r))
    (hpair : r.provider = p) (hid : Text.isAllBlank userId = false) :
    Claims.parse provider role userId = .ok ⟨r, userId, hid⟩ := by
  rw [parse, Provider.parse_of_isSpellingOf hp, Role.parse_of_isSpellingOf hr]
  show Claims.new p r userId = _
  rw [new, dif_pos hid, if_pos hpair]

namespace Session
namespace Token

open Text (Base64Url.encode Base64Url.decode)

variable {p : Payload} {secret : List UInt8}

/-! ## The parts of a signed token -/

theorem point_notMem_encode (bs : List UInt8) : point ∉ Base64Url.encode bs := by
  intro hmem
  exact absurd (Text.Base64Url.isSymbol_of_mem_encode hmem)
    (show ¬ (Text.Base64Url.value? point).isSome = true by decide)

theorem splitAtLastPoint_of_free {bs : List UInt8} (h : point ∉ bs) :
    splitAtLastPoint bs = none := by
  induction bs with
  | nil => rfl
  | cons b bs ih =>
    rw [List.mem_cons, not_or] at h
    rw [splitAtLastPoint, ih h.2]
    exact if_neg (Ne.symm h.1)

/-- Behind the last point there is no other. -/
theorem splitAtLastPoint_append_cons {behind : List UInt8} (h : point ∉ behind)
    (front : List UInt8) :
    splitAtLastPoint (front ++ point :: behind) = some (front, behind) := by
  induction front with
  | nil =>
    rw [List.nil_append, splitAtLastPoint, splitAtLastPoint_of_free h]
    exact if_pos rfl
  | cons b front ih => rw [List.cons_append, splitAtLastPoint, ih]

/-- The parts of a signed token. -/
def signedParts (secret : List UInt8) (p : Payload) : Parts where
  header := part header
  payload := part p.toJson
  signature := Base64Url.encode (Crypto.Hmac.code secret (part header ++ point :: part p.toJson))

theorem parts?_sign (secret : List UInt8) (p : Payload) :
    parts? (sign secret p) = some (signedParts secret p) := by
  have hpayload : point ∉ part p.toJson := point_notMem_encode _
  have hsignature :=
    point_notMem_encode (Crypto.Hmac.code secret (part header ++ point :: part p.toJson))
  simp only [sign, parts?, splitAtLastPoint_append_cons hsignature,
    splitAtLastPoint_append_cons hpayload, Option.bind_eq_bind, Option.bind_some]
  rfl

theorem partBytes_encode (bs : List UInt8) : partBytes (Base64Url.encode bs) = pure bs := by
  rw [partBytes, Text.Base64Url.decode_encode]
  rfl

/-- A part holds the value that it was made of. -/
theorem partValue_part {β : Type} {v : Json} {read : Json → Option β} {a : β}
    (h : Json.Writes (.value v) (Json.write v)) (hread : read v = some a) :
    partValue (part v) read = pure a := by
  rw [partValue, part, partBytes_encode, pure_bind, Json.parseBytes_render h, Option.bind_some,
    hread]

/-! ## Header and payload -/

theorem writes_header : Json.Writes (.value header) (Json.write header) := by
  refine Json.writes_obj fun m hm => ?_
  simp only [List.mem_cons, List.not_mem_nil, or_false] at hm
  obtain rfl | rfl := hm
  all_goals exact Json.writes_str _

theorem algorithmOf?_header : algorithmOf? header = some algorithm := by
  decide +kernel

theorem Payload.writes_toJson (p : Payload) :
    Json.Writes (.value p.toJson) (Json.write p.toJson) := by
  refine Json.writes_obj fun m hm => ?_
  simp only [List.mem_cons, List.not_mem_nil, or_false] at hm
  obtain rfl | rfl | rfl | rfl := hm
  · exact Json.writes_str _
  · exact Json.writes_str _
  · exact Json.writes_str _
  · exact Json.writes_nat _

/-- A payload is read as it was written, if its last second fits in 64 bits. -/
theorem soundPayload?_toJson (h : p.expiry ≤ Json.maxWord) :
    soundPayload? p.toJson = some (p, p.toJson) := by
  have hslots : Json.slots? .json layout p.toJson = some ⟨[some (Json.str p.provider),
      some (Json.str p.role), some (Json.str p.userId), some (Json.nat p.expiry)], false⟩ := rfl
  have hexpiry : Json.word64? (Json.nat p.expiry) = some p.expiry := if_pos h
  have hpayload : payload? p.toJson = some p := by
    rw [payload?, hslots]
    show (Json.word64? (Json.nat p.expiry)).bind _ = _
    rw [hexpiry]
    rfl
  have hsound : hasSoundRegistry p.toJson = true := rfl
  rw [soundPayload?, hpayload]
  exact if_pos hsound

theorem hasAudience_toJson (p : Payload) : hasAudience p.toJson = false := rfl

/-! ## Verification -/

theorem authenticate_sign (secret : List UInt8) (p : Payload) :
    authenticate secret (sign secret p) = pure (signedParts secret p) := by
  have hheader : partValue (signedParts secret p).header algorithmOf? = pure algorithm :=
    partValue_part writes_header algorithmOf?_header
  have hsignature : partBytes (signedParts secret p).signature =
      pure (Crypto.Hmac.code secret (signedParts secret p).message) :=
    partBytes_encode _
  rw [authenticate, parts?_sign]
  simp only [hheader, hsignature, pure_bind, ne_eq, not_true_eq_false, if_false]

/-- **A signed token is right until it expires.** -/
theorem verify_sign {now : Nat} (h : p.expiry ≤ Json.maxWord) :
    verify secret now (sign secret p) = if p.expiry < now then .error .expired else .ok p := by
  have hpayload : partValue (signedParts secret p).payload soundPayload? = pure (p, p.toJson) :=
    partValue_part p.writes_toJson (soundPayload?_toJson h)
  rw [verify, authenticate_sign, pure_bind, hpayload, pure_bind]
  simp only [hasAudience_toJson, Bool.false_eq_true, if_false]
  split
  · rfl
  · rfl

/-! ## Tokens as texts -/

theorem isVisible_of_isSymbol {b : UInt8} (h : Text.Base64Url.IsSymbol b) :
    Headers.isVisible b = true := by
  have hall : ∀ v < 64, Headers.isVisible (Text.Base64Url.symbol v) = true := by decide
  obtain ⟨v, hv⟩ := Option.isSome_iff_exists.1 h
  obtain ⟨hlt, rfl⟩ := Text.Base64Url.of_value? hv
  exact hall v hlt

/-- A signed token can be read, and so it can be the value of a cookie. -/
theorem all_isVisible_sign (secret : List UInt8) (p : Payload) :
    (sign secret p).all Headers.isVisible = true := by
  have hencode (bs : List UInt8) : (Base64Url.encode bs).all Headers.isVisible = true :=
    List.all_eq_true.2 fun b hb => isVisible_of_isSymbol (Text.Base64Url.isSymbol_of_mem_encode hb)
  have hpoint : Headers.isVisible point = true := by decide
  simp only [sign, part, List.all_append, List.all_cons, hencode, hpoint, Bool.and_self]

end Token

namespace TokenResolver

open Token (Payload)

/-- **Signed sessions are found again.**  A token is signed that spells a provider and a role that
belong together, with any user identifier that is not blank and any last second of 64 bits that has
not passed.  It is the token of some text, and decoding that text gives claims with this provider
and role, their namespace, and the user identifier as it was. -/
theorem signed_sessions_are_found (r : TokenResolver) {now expiry : Nat} {provider : Provider}
    {role : Role} {providerText roleText userId : String}
    (hprovider : IsSpellingOf providerText (Vocabulary.word provider))
    (hrole : IsSpellingOf roleText (Vocabulary.word role)) (hpair : role.provider = provider)
    (hid : Text.isAllBlank userId = false) (hgood : now ≤ expiry) (hword : expiry < 2 ^ 64) :
    ∃ token, Text.bytes token = Token.sign r.secret ⟨providerText, roleText, userId, expiry⟩ ∧
      ∃ c, r.decode now token = .ok c ∧ c.provider = provider ∧ c.role = role ∧
        c.namespacePath = Vocabulary.word provider ++ "/" ++ Vocabulary.word role ∧
          c.userId = userId := by
  let p : Payload := ⟨providerText, roleText, userId, expiry⟩
  have hbytes :
      Text.bytes (String.ofList ((Token.sign r.secret p).map char)) = Token.sign r.secret p :=
    bytes_of_toList_eq (Token.all_isVisible_sign r.secret p) String.toList_ofList
  have hverify : Token.verify r.secret now (Token.sign r.secret p) = pure p := by
    rw [Token.verify_sign (Nat.le_of_lt_succ hword), if_neg (Nat.not_lt.2 hgood)]
    rfl
  refine ⟨_, hbytes, ⟨role, userId, hid⟩, ?_, hpair, rfl, ?_, rfl⟩
  · rw [decode, hbytes, hverify, pure_bind, Claims.parse_of_isSpellingOf hprovider hrole hpair hid]
    rfl
  · rw [← hpair]
    rfl

/-- A role with a capital and a blank, an identifier with a quote, a line end and a letter of two
bytes, and the last second that there is. -/
theorem signed_sessions_are_found_in_the_last_second :
    let r : TokenResolver := { secret := Text.bytes "s3cret" }
    let p : Payload := ⟨"IDIR", " Cas_admin", "a\"\né ", 2 ^ 64 - 1⟩
    ∃ token, Text.bytes token = Token.sign r.secret p ∧
      ∃ c, r.decode (2 ^ 64 - 1) token = .ok c ∧ c.provider = .idir ∧ c.role = .casAdmin ∧
        c.namespacePath = "idir/cas_admin" ∧ c.userId = p.userId := by
  intro r p
  have hprovider : IsSpellingOf "IDIR" (Vocabulary.word Provider.idir) := by
    refine ⟨[], "IDIR".toList, [], by decide, by decide, by decide, ?_⟩
    decide
  have hrole : IsSpellingOf " Cas_admin" (Vocabulary.word Role.casAdmin) := by
    refine ⟨[' '], "Cas_admin".toList, [], by decide, by decide, by decide, ?_⟩
    decide
  exact signed_sessions_are_found r hprovider hrole rfl (by decide) (Nat.le_refl _) (by decide)

end TokenResolver
end Session
end Gatehouse
