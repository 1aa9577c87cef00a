import Mathlib.Data.List.Basic
import Gatehouse.Proofs.Text.Bytes
import Gatehouse.Proofs.Url.Origin
import Gatehouse.Session.Resolver

/-!
# Cookies among others

A cookie field holds pairs of a name and a value, and the session is looked for under a few names.
Here is what a pair with another name does to the search.

Header values are bytes, and not all of these can be read as characters.  So the pairs of a value
are taken from its bytes (`pairsOf`), and the first half of this file shows that the cookies of a
field are the cookies among its pairs, provided that every byte of every pair can be read, and that
there are none otherwise (`cookiesIn_eq`).

* `HasOneMore` — one value has the pairs of another and one more.
* `TokenResolver.extract?_of_hasOneMore` — which token is found then: that of before if the new pair
  can be read, and otherwise that of the request without the field.
* `TokenResolver.unrelated_pair_hides_nothing_iff` — when the session is found as before.
-/

set_option autoImplicit false

namespace Gatehouse
namespace Session

open Headers (isVisible visible?)

/-! ## The pairs of a field -/

/-- The byte between two pairs. -/
def semicolon : UInt8 := 0x3B

/-- The byte between a name and its value. -/
def equals : UInt8 := 0x3D

/-- The bytes that may stand around a pair. -/
def isGap (b : UInt8) : Bool :=
  b == 0x20 || b == 0x09

/-- Bytes without the blanks and tabs at either end. -/
def trimGaps (bs : List UInt8) : List UInt8 :=
  ((bs.dropWhile isGap).reverse.dropWhile isGap).reverse

/-- The pairs of the value of a field.  Where nothing stands between two semicolons there is no
pair. -/
def pairsOf (value : List UInt8) : List (List UInt8) :=
  ((Text.pieces (· == semicolon) value).map trimGaps).filter fun pair => !pair.isEmpty

/-- A pair with a name. -/
def pair (name content : List UInt8) : List UInt8 :=
  name ++ equals :: content

/-- One value has the pairs of another and one more, wherever it stands. -/
def HasOneMore (added value value' : List UInt8) : Prop :=
  ∃ front behind, pairsOf value = front ++ behind ∧ pairsOf value' = front ++ added :: behind

theorem pairsOf_append (front behind : List UInt8) :
    pairsOf (front ++ semicolon :: behind) = pairsOf front ++ pairsOf behind := by
  rw [pairsOf, Text.pieces_append_cons rfl, List.map_append, List.filter_append]
  rfl

/-- A pair is added behind a semicolon. -/
theorem hasOneMore_append {added more : List UInt8} (h : pairsOf more = [added])
    (value : List UInt8) :
    HasOneMore added value (value ++ semicolon :: more) :=
  ⟨pairsOf value, [], (List.append_nil _).symm, by rw [pairsOf_append, h]⟩

/-! ## Visible bytes as characters -/

/-- The character of a byte. -/
def char (b : UInt8) : Char :=
  Char.ofNat b.toNat

theorem toNat_char (b : UInt8) : (char b).toNat = b.toNat := by
  have hvalid : b.toNat.isValidChar := .inl (Nat.lt_trans b.toNat_lt (by decide))
  rw [char, Char.ofNat, dif_pos hvalid]
  rfl

theorem char_beq (b : UInt8) {c : Char} {d : UInt8} (h : c.toNat = d.toNat) :
    (char b == c) = (b == d) := by
  rw [Bool.eq_iff_iff, beq_iff_eq, beq_iff_eq, ← Char.toNat_inj, ← UInt8.toNat_inj, toNat_char, h]

theorem isVisible_iff {b : UInt8} :
    isVisible b = true ↔ b.toNat = 0x09 ∨ 0x20 ≤ b.toNat ∧ b.toNat ≤ 0x7E := by
  simp only [isVisible, Bool.or_eq_true, Bool.and_eq_true, beq_iff_eq, decide_eq_true_eq,
    UInt8.le_iff_toNat_le, ← UInt8.toNat_inj]
  rfl

theorem isGap_iff {b : UInt8} : isGap b = true ↔ b.toNat = 0x20 ∨ b.toNat = 0x09 := by
  simp only [isGap, Bool.or_eq_true, beq_iff_eq, ← UInt8.toNat_inj]
  rfl

/-- Of the visible bytes only the blank and the tab are blank characters. -/
theorem isBlank_char {b : UInt8} (h : isVisible b = true) : Text.isBlank (char b) = isGap b := by
  rw [isVisible_iff] at h
  rw [Bool.eq_iff_iff, isGap_iff]
  simp only [Text.isBlank, toNat_char, Bool.or_eq_true, Bool.and_eq_true, beq_iff_eq,
    decide_eq_true_eq]
  omega

theorem isVisible_of_isGap {b : UInt8} (h : isGap b = true) : isVisible b = true := by
  rw [isGap_iff] at h
  rw [isVisible_iff]
  omega

/-! ## A field read as bytes -/

theorem pieces_map {α β : Type} (f : α → β) (isSep : β → Bool) (cs : List α) :
    Text.pieces isSep (cs.map f) = (Text.pieces (isSep ∘ f) cs).map (List.map f) := by
  induction cs with
  | nil => rfl
  | cons c cs ih =>
    simp only [List.map_cons, Text.pieces, ih, Function.comp_apply]
    split
    · rfl
    · cases Text.pieces (isSep ∘ f) cs <;> rfl

theorem all_dropWhile_isGap (bs : List UInt8) :
    (bs.dropWhile isGap).all isVisible = bs.all isVisible := by
  induction bs with
  | nil => rfl
  | cons b bs ih =>
    by_cases hb : isGap b = true
    · rw [List.dropWhile_cons_of_pos hb, ih, List.all_cons, isVisible_of_isGap hb, Bool.true_and]
    · rw [List.dropWhile_cons_of_neg hb]

theorem all_trimGaps (bs : List UInt8) : (trimGaps bs).all isVisible = bs.all isVisible := by
  rw [trimGaps, List.all_reverse, all_dropWhile_isGap, List.all_reverse, all_dropWhile_isGap]

theorem all_pieces (value : List UInt8) :
    (Text.pieces (· == semicolon) value).all (·.all isVisible) = value.all isVisible := by
  induction value with
  | nil => rfl
  | cons b value ih =>
    rw [List.all_cons, ← ih, Text.pieces]
    split
    · next hb =>
      rw [beq_iff_eq.1 hb, List.all_cons]
      rfl
    · obtain ⟨p, ps, hpieces⟩ :=
        List.exists_cons_of_ne_nil (Text.pieces_ne_nil (· == semicolon) value)
      rw [hpieces]
      simp only [List.all_cons, Bool.and_assoc]

/-- A value can be read just if every pair of it can. -/
theorem all_pairsOf (value : List UInt8) :
    (pairsOf value).all (·.all isVisible) = value.all isVisible := by
  have hempty : ∀ pair : List UInt8,
      (!!pair.isEmpty || pair.all isVisible) = pair.all isVisible := by
    intro pair
    cases pair <;> rfl
  rw [pairsOf, List.all_filter]
  simp only [hempty, List.all_map, Function.comp_def, all_trimGaps]
  exact all_pieces value

theorem dropWhile_map {bs : List UInt8} (h : bs.all isVisible = true) :
    (bs.map char).dropWhile Text.isBlank = (bs.dropWhile isGap).map char := by
  induction bs with
  | nil => rfl
  | cons b bs ih =>
    rw [List.all_cons, Bool.and_eq_true] at h
    rw [List.map_cons, List.dropWhile_cons, List.dropWhile_cons, isBlank_char h.1, ih h.2]
    split <;> rfl

theorem trim_map {bs : List UInt8} (h : bs.all isVisible = true) :
    Text.trim (bs.map char) = (trimGaps bs).map char := by
  have hstart : (bs.dropWhile isGap).reverse.all isVisible = true := by
    rw [List.all_reverse, all_dropWhile_isGap, h]
  rw [Text.trim, Text.trimStart, Text.trimEnd, dropWhile_map h, ← List.map_reverse,
    dropWhile_map hstart, ← List.map_reverse, trimGaps]

/-- The cookie that a pair is, if it is one. -/
def cookieOf? (pair : List UInt8) : Option Cookie :=
  Text.cut? (· == '=') (pair.map char)

/-- The cookies of the value of a field. -/
def cookiesIn (value : List UInt8) : List Cookie :=
  match visible? value with
  | some field => cookiesOf field.toList
  | none => []

theorem cookiesIn_of_not_visible {value : List UInt8} (h : ¬ value.all isVisible = true) :
    cookiesIn value = [] := by
  rw [cookiesIn, visible?, if_neg h]

theorem cookiesIn_of_visible {value : List UInt8} (h : value.all isVisible = true) :
    cookiesIn value = (pairsOf value).filterMap cookieOf? := by
  have hpiece : ∀ piece ∈ Text.pieces (· == semicolon) value,
      Text.cut? (· == '=') (Text.trim (piece.map char)) = cookieOf? (trimGaps piece) := by
    intro piece hmem
    rw [trim_map (List.all_eq_true.1 ((all_pieces value).trans h) piece hmem), cookieOf?]
  have hsep : (· == ';') ∘ char = (· == semicolon) := funext fun b => char_beq b rfl
  -- an empty piece is no pair, and it is no cookie either
  have hpair :
      ∀ pair, (if (!pair.isEmpty) = true then cookieOf? pair else none) = cookieOf? pair := by
    intro pair
    cases pair <;> rfl
  have hfield : cookiesIn value = cookiesOf (value.map char) := by
    rw [cookiesIn, visible?, if_pos h]
    dsimp only
    rw [String.toList_ofList]
    rfl
  rw [hfield, cookiesOf, pieces_map, hsep, List.filterMap_map, pairsOf, List.filterMap_filter]
  simp only [hpair, List.filterMap_map]
  exact List.filterMap_congr hpiece

/-- The cookies of a value are those among its pairs, if all of them can be read. -/
theorem cookiesIn_eq (value : List UInt8) :
    cookiesIn value =
      if (pairsOf value).all (·.all isVisible) then (pairsOf value).filterMap cookieOf?
      else [] := by
  rw [all_pairsOf]
  split
  · next h => exact cookiesIn_of_visible h
  · next h => exact cookiesIn_of_not_visible h

/-! ## Pairs with a name -/

theorem flatMap_map_char {name : List UInt8} (h : name.all isVisible = true) :
    (name.map char).flatMap String.utf8EncodeChar = name := by
  induction name with
  | nil => rfl
  | cons b name ih =>
    rw [List.all_cons, Bool.and_eq_true] at h
    have hascii : (char b).toNat < 0x80 := by
      have hbound := isVisible_iff.1 h.1
      rw [toNat_char]
      omega
    rw [List.map_cons, List.flatMap_cons, ih h.2, Text.utf8EncodeChar_of_ascii hascii, toNat_char,
      UInt8.ofNat_toNat, List.singleton_append]

/-- The visible bytes of a name are those of the text that it spells. -/
theorem bytes_of_toList_eq {s : String} {name : List UInt8} (hvisible : name.all isVisible = true)
    (h : s.toList = name.map char) : Text.bytes s = name := by
  rw [Text.bytes_eq_flatMap, h, flatMap_map_char hvisible]

/-- A pair is the cookie of its name. -/
theorem cookieOf?_pair {name : List UInt8} (hname : equals ∉ name) (content : List UInt8) :
    cookieOf? (pair name content) = some (name.map char, content.map char) := by
  have hfree : '=' ∉ name.map char := by
    intro hmem
    obtain ⟨b, hb, hchar⟩ := List.mem_map.1 hmem
    have hb' : (char b == '=') = (b == equals) := char_beq b rfl
    rw [hchar, beq_self_eq_true] at hb'
    exact hname (beq_iff_eq.1 hb'.symm ▸ hb)
  have hmap : (pair name content).map char = name.map char ++ '=' :: content.map char := by
    rw [pair, List.map_append, List.map_cons]
    rfl
  rw [cookieOf?, hmap, Text.cut?, Url.cut_append_cons hfree]
  rfl

theorem valueOf?_append_cons {name : List Char} {c : Cookie} (h : c.1 ≠ name)
    (front behind : List Cookie) :
    valueOf? name (front ++ c :: behind) = valueOf? name (front ++ behind) := by
  have hother : (c.1 == name && !c.2.isEmpty) = false := by rw [beq_false_of_ne h, Bool.false_and]
  rw [valueOf?, valueOf?, List.find?_append, List.find?_append, List.find?_cons, hother]

/-! ## Requests with one pair more -/

theorem getAll_append (fields fields' : List Header) (name : String) :
    (Headers.mk (fields ++ fields')).getAll name =
      (Headers.mk fields).getAll name ++ (Headers.mk fields').getAll name :=
  List.filterMap_append

theorem getAll_cons (field : Header) (fields : List Header) (name : String) :
    (Headers.mk (field :: fields)).getAll name =
      if field.name = name then field.value :: (Headers.mk fields).getAll name
      else (Headers.mk fields).getAll name := by
  by_cases h : field.name = name
  · simp [Headers.getAll, h]
  · simp [Headers.getAll, h]

theorem cookies_append (fields fields' : List Header) :
    cookies ⟨fields ++ fields'⟩ = cookies ⟨fields⟩ ++ cookies ⟨fields'⟩ := by
  rw [cookies, getAll_append, List.flatMap_append]
  rfl

theorem cookies_cons (value : List UInt8) (fields : List Header) :
    cookies ⟨⟨"cookie", value⟩ :: fields⟩ = cookiesIn value ++ cookies ⟨fields⟩ := by
  rw [cookies, getAll_cons, if_pos rfl, List.flatMap_cons]
  rfl

/-- Header fields with a cookie field among them. -/
def withCookie (before after : List Header) (value : List UInt8) : Headers :=
  ⟨before ++ ⟨"cookie", value⟩ :: after⟩

theorem cookies_withCookie (before after : List Header) (value : List UInt8) :
    cookies (withCookie before after value) =
      cookies ⟨before⟩ ++ (cookiesIn value ++ cookies ⟨after⟩) := by
  rw [withCookie, cookies_append, cookies_cons]

/-- What a pair more does to the cookies of a value. -/
theorem cookiesIn_of_hasOneMore {name content value value' : List UInt8}
    (h : HasOneMore (pair name content) value value') (hname : equals ∉ name) :
    if (pair name content).all isVisible then
      cookiesIn value' = cookiesIn value ∨ ∃ front behind, cookiesIn value = front ++ behind ∧
        cookiesIn value' = front ++ (name.map char, content.map char) :: behind
    else cookiesIn value' = [] := by
  obtain ⟨front, behind, hvalue, hvalue'⟩ := h
  rw [cookiesIn_eq value, cookiesIn_eq value', hvalue, hvalue']
  simp only [List.all_append, List.all_cons, List.filterMap_append,
    List.filterMap_cons_some (cookieOf?_pair hname content)]
  split
  · next hpair =>
    rw [hpair, Bool.true_and]
    split
    · exact .inr ⟨_, _, rfl, rfl⟩
    · exact .inl rfl
  · next hpair =>
    rw [Bool.not_eq_true] at hpair
    rw [hpair, Bool.false_and, Bool.and_false, if_neg Bool.false_ne_true]

namespace TokenResolver

/-- The token in some cookies. -/
def inCookies? (r : TokenResolver) (found : List Cookie) : Option (List Char) :=
  r.cookieNames.findSome? fun name => valueOf? name.toList found

theorem inCookies?_append_cons {r : TokenResolver} {c : Cookie}
    (h : ∀ name ∈ r.cookieNames, c.1 ≠ name.toList) (front behind : List Cookie) :
    r.inCookies? (front ++ c :: behind) = r.inCookies? (front ++ behind) := by
  rw [inCookies?, inCookies?]
  generalize r.cookieNames = names at h
  induction names with
  | nil => rfl
  | cons name names ih =>
    rw [List.forall_mem_cons] at h
    rw [List.findSome?_cons, List.findSome?_cons, valueOf?_append_cons h.1, ih h.2]

theorem bearer?_withCookie (before after : List Header) (value : List UInt8) :
    bearer? (withCookie before after value) = bearer? ⟨before ++ after⟩ := by
  have hname : ("cookie" : String) ≠ "authorization" := by decide
  have hfield : (withCookie before after value).getAll "authorization" =
      (Headers.mk (before ++ after)).getAll "authorization" := by
    rw [withCookie, getAll_append, getAll_append, getAll_cons, if_neg hname]
  rw [bearer?, bearer?, Headers.get?, Headers.get?, hfield]

/-- The token of a request with a cookie field, in terms of the cookies in it. -/
theorem extract?_withCookie (r : TokenResolver) (before after : List Header) (value : List UInt8) :
    r.extract? (withCookie before after value) =
      ((r.inCookies? (cookies ⟨before⟩ ++ (cookiesIn value ++ cookies ⟨after⟩))).or
        (if r.allowBearer then bearer? ⟨before ++ after⟩ else none)).map String.ofList := by
  rw [extract?, ← cookies_withCookie, bearer?_withCookie]
  rfl

/-- What a pair more does to the token that is found. -/
theorem extract?_of_hasOneMore {r : TokenResolver} {name content value value' : List UInt8}
    (h : HasOneMore (pair name content) value value') (hname : equals ∉ name)
    (hother : ∀ n ∈ r.cookieNames, Text.bytes n ≠ name) (before after : List Header) :
    r.extract? (withCookie before after value') =
      if (pair name content).all isVisible then r.extract? (withCookie before after value)
      else r.extract? ⟨before ++ after⟩ := by
  have hcookies := cookiesIn_of_hasOneMore h hname
  split
  · next hpair =>
    rw [if_pos hpair] at hcookies
    have hvisible : name.all isVisible = true := by
      rw [pair, List.all_append, Bool.and_eq_true] at hpair
      exact hpair.1
    rw [extract?_withCookie, extract?_withCookie]
    rcases hcookies with hsame | ⟨front, behind, hvalue, hvalue'⟩
    · rw [hsame]
    · have hunnamed : ∀ n ∈ r.cookieNames, name.map char ≠ n.toList := fun n hn heq =>
        hother n hn (bytes_of_toList_eq hvisible heq.symm)
      have hfound : r.inCookies? (cookies ⟨before⟩ ++ (cookiesIn value' ++ cookies ⟨after⟩)) =
          r.inCookies? (cookies ⟨before⟩ ++ (cookiesIn value ++ cookies ⟨after⟩)) := by
        rw [hvalue, hvalue', List.append_assoc, List.append_assoc, List.cons_append,
          ← List.append_assoc, ← List.append_assoc (cookies ⟨before⟩)]
        exact inCookies?_append_cons hunnamed _ _
      rw [hfound]
  · next hpair =>
    rw [if_neg hpair] at hcookies
    rw [extract?_withCookie, hcookies, List.nil_append, ← cookies_append]
    rfl

/-- **When an unrelated pair hides nothing.**  Another pair in a cookie field, with a name in which
no session is looked for, leaves the token as it was just if the pair can be read, or if that same
token is found without the field.  The session is then what it was. -/
theorem unrelated_pair_hides_nothing_iff {r : TokenResolver}
    {name content value value' : List UInt8}
    (h : HasOneMore (pair name content) value value') (hname : equals ∉ name)
    (hother : ∀ n ∈ r.cookieNames, Text.bytes n ≠ name) (before after : List Header) :
    let hidesNothing := (pair name content).all isVisible = true ∨
      r.extract? ⟨before ++ after⟩ = r.extract? (withCookie before after value)
    (r.extract? (withCookie before after value') = r.extract? (withCookie before after value) ↔
        hidesNothing) ∧
      (hidesNothing → ∀ now path query,
        r.resolve now ⟨path, query, withCookie before after value'⟩ =
          r.resolve now ⟨path, query, withCookie before after value⟩) := by
  intro hidesNothing
  have hiff :
      r.extract? (withCookie before after value') = r.extract? (withCookie before after value) ↔
      hidesNothing := by
    rw [extract?_of_hasOneMore h hname hother]
    split
    · next hpair => exact iff_of_true rfl (.inl hpair)
    · next hpair => exact ⟨.inr, fun hsame => hsame.resolve_left hpair⟩
  refine ⟨hiff, fun hsame now path query => ?_⟩
  rw [resolve, resolve, hiff.2 hsame]

theorem unrelated_pair_hides_nothing_theme :
    let r : TokenResolver := { secret := Text.bytes "s3cret" }
    let value := Text.bytes "next-auth.session-token=abc"
    let value' := Text.bytes "theme=dark; next-auth.session-token=abc"
    r.extract? (withCookie [] [] value) = some "abc" ∧
      r.extract? (withCookie [] [] value') = r.extract? (withCookie [] [] value) ∧
      r.resolve 0 ⟨"/", [], withCookie [] [] value'⟩ =
        r.resolve 0 ⟨"/", [], withCookie [] [] value⟩ := by
  intro r value value'
  have hmore : HasOneMore (pair (Text.bytes "theme") (Text.bytes "dark")) value value' :=
    ⟨[], [value], by decide +kernel, by decide +kernel⟩
  have hvisible : (pair (Text.bytes "theme") (Text.bytes "dark")).all isVisible = true := by
    decide +kernel
  have hpair := unrelated_pair_hides_nothing_iff (r := r) hmore (by decide +kernel)
    (by decide +kernel) [] []
  exact ⟨by decide +kernel, hpair.1.2 (.inl hvisible), hpair.2 (.inl hvisible) _ _ _⟩

/-- **A pair that cannot be read hides the session.**  The value of the pair is the letter `é`,
whose two bytes may stand in a header value, and the name is not one in which a session is looked
for; with it the request has no session token any more. -/
theorem unreadable_pair_hides_session :
    let r : TokenResolver := { secret := Text.bytes "s3cret" }
    let value := Text.bytes "next-auth.session-token=abc"
    let value' := Text.bytes "next-auth.session-token=abc; x=é"
    HasOneMore (pair (Text.bytes "x") (Text.bytes "é")) value value' ∧
      value'.all Headers.isValueByte = true ∧ equals ∉ Text.bytes "x" ∧
      (∀ n ∈ r.cookieNames, Text.bytes n ≠ Text.bytes "x") ∧
      r.extract? (withCookie [] [] value) = some "abc" ∧
      r.extract? (withCookie [] [] value') = none ∧
      r.resolve 0 ⟨"/", [], withCookie [] [] value'⟩ ≠
        r.resolve 0 ⟨"/", [], withCookie [] [] value⟩ := by
  intro r value value'
  have hmore : HasOneMore (pair (Text.bytes "x") (Text.bytes "é")) value value' := by
    have happend : value' = value ++ semicolon :: Text.bytes " x=é" := by decide +kernel
    rw [happend]
    exact hasOneMore_append (by decide +kernel) value
  have hold : r.extract? (withCookie [] [] value) = some "abc" := by decide +kernel
  have hnew : r.extract? (withCookie [] [] value') = none := by decide +kernel
  refine ⟨hmore, by decide +kernel, by decide +kernel, by decide +kernel, hold, hnew, ?_⟩
  rw [resolve, resolve, hnew, hold]
  decide +kernel

end TokenResolver
end Session
end Gatehouse
