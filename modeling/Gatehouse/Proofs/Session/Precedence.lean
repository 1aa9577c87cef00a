import Gatehouse.Proofs.Session.Cookies
import Gatehouse.Proofs.Text.Pieces
import Gatehouse.Proofs.Text.Utf8

/-!
# Which cookie counts

A request may have several cookie fields, each with several cookies, some of them without a value;
and a session is looked for under several names, and at last in the `authorization` field.  So there
are two orders, that of the names and that of the cookies, and the search has to go by the first of
them before it goes by the second.

This file is about requests whose cookie fields can be read (`IsReadable`).  Then it does not matter
how the pairs are spread over the fields: `pairs` puts those of all fields in one row, and that row
is all that the search depends on.

* `IsCookie`, `IsFirstValue` — the value of a name among some pairs, said on bytes, without reading
  them.
* `valued?_eq_some_iff`, `valued?_eq_none_iff` — what the search under one name takes a pair for.
* `pairsOf_joined` — fields that are put together, with a semicolon and a blank between them, have
  the pairs that they had.
* `TokenResolver.extract?_precedence` — what a resolver finds, from the pairs and the order of its
  names; it depends neither on the fields nor on pairs without a value.
-/

set_option autoImplicit false

namespace Gatehouse
namespace Session

open Headers (isVisible)

variable {name : String} {p content : List UInt8} {headers : Headers}

/-! ## Cookies among pairs -/

/-- A pair is a cookie of a name.  A name with an equals sign has no cookies, because of several
equals signs in a pair the first divides. -/
def IsCookie (p : List UInt8) (name : String) (content : List UInt8) : Prop :=
  equals ∉ Text.bytes name ∧ p = pair (Text.bytes name) content

/-- Among some pairs there is none that gives a name a value. -/
def HasNoValue (ps : List (List UInt8)) (name : String) : Prop :=
  ∀ p ∈ ps, ∀ content, IsCookie p name content → content = []

/-- The first value that a name is given among some pairs. -/
def IsFirstValue (ps : List (List UInt8)) (name : String) (content : List UInt8) : Prop :=
  content ≠ [] ∧ ∃ p front behind, ps = front ++ p :: behind ∧ IsCookie p name content ∧
    HasNoValue front name

/-- Visible bytes are those of a text just if the text is read from them. -/
theorem bytes_eq_iff {s : String} (h : content.all isVisible = true) :
    Text.bytes s = content ↔ s.toList = content.map char := by
  refine ⟨?_, bytes_of_toList_eq h⟩
  rintro rfl
  have hbytes : Text.bytes (String.ofList ((Text.bytes s).map char)) = Text.bytes s :=
    bytes_of_toList_eq h String.toList_ofList
  have hsame := congrArg Text.Utf8.decodeLossy hbytes
  rw [Text.Utf8.decodeLossy_bytes, Text.Utf8.decodeLossy_bytes] at hsame
  rw [← hsame, String.toList_ofList, hsame]

/-- A cookie is read from a pair that is divided by an equals sign. -/
theorem exists_pair_of_cookieOf? {c : Cookie} (h : cookieOf? p = some c) :
    ∃ front behind, equals ∉ front ∧ p = pair front behind ∧
      c = (front.map char, behind.map char) := by
  obtain ⟨value, hvalue, rfl⟩ := Option.map_eq_some_iff.1 h
  obtain ⟨c, hc, hp⟩ := Text.cut_some (Prod.ext rfl hvalue)
  obtain ⟨front, rest, rfl, hfront, hrest⟩ := List.map_eq_append_iff.1 hp
  obtain ⟨b, behind, rfl, hb, rfl⟩ := List.map_eq_cons_iff.1 hrest
  rw [← hb, char_beq b (d := equals) rfl, beq_iff_eq] at hc
  refine ⟨front, behind, fun hmem => ?_, by rw [hc, pair], by rw [hfront]⟩
  -- no equals sign stands in front of the first one
  have hfree := Text.free_of_cut _ '=' (hfront ▸ List.mem_map.2 ⟨equals, hmem, rfl⟩)
  exact absurd hfree (by decide)

/-! ## The search under one name -/

/-- The value that a pair gives a name, if it gives it one. -/
def valued? (name : String) (p : List UInt8) : Option (List Char) :=
  (cookieOf? p).bind fun c => if c.1 = name.toList ∧ c.2 ≠ [] then some c.2 else none

theorem valueOf?_filterMap (name : String) (ps : List (List UInt8)) :
    valueOf? name.toList (ps.filterMap cookieOf?) = ps.findSome? (valued? name) := by
  induction ps with
  | nil => rfl
  | cons p ps ih =>
    rw [List.findSome?_cons, ← ih, valued?, List.filterMap_cons]
    cases cookieOf? p with
    | none => rfl
    | some c =>
      by_cases hc : c.1 = name.toList ∧ c.2 ≠ []
      · simp [valueOf?, hc]
      · have hpassed : (c.1 == name.toList && !c.2.isEmpty) = false := by simpa using hc
        simp [valueOf?, hpassed, hc]

/-- A pair gives a name a value just if it is a cookie of that name and not empty. -/
theorem valued?_eq_some_iff (h : p.all isVisible = true) {value : List Char} :
    valued? name p = some value ↔
      ∃ content, content ≠ [] ∧ IsCookie p name content ∧ value = content.map char := by
  rw [valued?, Option.bind_eq_some_iff]
  constructor
  · rintro ⟨c, hc, hif⟩
    obtain ⟨front, behind, hfront, rfl, rfl⟩ := exists_pair_of_cookieOf? hc
    obtain ⟨⟨hname, hne⟩, hvalue⟩ := Option.ite_none_right_eq_some.1 hif
    rw [pair, List.all_append, Bool.and_eq_true] at h
    have hbytes : Text.bytes name = front := (bytes_eq_iff h.1).2 hname.symm
    refine ⟨behind, fun hnil => hne (by rw [hnil]; rfl), ?_, (Option.some.inj hvalue).symm⟩
    rw [IsCookie, hbytes]
    exact ⟨hfront, rfl⟩
  · rintro ⟨content, hne, ⟨hname, rfl⟩, rfl⟩
    rw [pair, List.all_append, Bool.and_eq_true] at h
    refine ⟨_, cookieOf?_pair hname content, if_pos ⟨((bytes_eq_iff h.1).1 rfl).symm, ?_⟩⟩
    exact fun hnil => hne (List.map_eq_nil_iff.1 hnil)

theorem valued?_eq_none_iff (h : p.all isVisible = true) :
    valued? name p = none ↔ ∀ content, IsCookie p name content → content = [] := by
  rw [Option.eq_none_iff_forall_ne_some]
  constructor
  · intro hnone content hcookie
    by_contra hne
    exact hnone _ ((valued?_eq_some_iff h).2 ⟨content, hne, hcookie, rfl⟩)
  · intro hempty value hvalue
    obtain ⟨content, hne, hcookie, -⟩ := (valued?_eq_some_iff h).1 hvalue
    exact hne (hempty content hcookie)

variable {ps : List (List UInt8)} {value : List Char}

theorem valueOf?_eq_none_iff (h : ∀ p ∈ ps, p.all isVisible = true) :
    valueOf? name.toList (ps.filterMap cookieOf?) = none ↔ HasNoValue ps name := by
  rw [valueOf?_filterMap, List.findSome?_eq_none_iff]
  exact forall₂_congr fun p hp => valued?_eq_none_iff (h p hp)

theorem valueOf?_eq_some_iff (h : ∀ p ∈ ps, p.all isVisible = true) :
    valueOf? name.toList (ps.filterMap cookieOf?) = some value ↔
      ∃ content, IsFirstValue ps name content ∧ value = content.map char := by
  rw [valueOf?_filterMap, List.findSome?_eq_some_iff]
  constructor
  · rintro ⟨front, p, behind, rfl, hp, hfront⟩
    rw [List.forall_mem_append, List.forall_mem_cons] at h
    obtain ⟨content, hne, hcookie, hvalue⟩ := (valued?_eq_some_iff h.2.1).1 hp
    refine ⟨content, ⟨hne, p, front, behind, rfl, hcookie, ?_⟩, hvalue⟩
    exact fun q hq => (valued?_eq_none_iff (h.1 q hq)).1 (hfront q hq)
  · rintro ⟨content, ⟨hne, p, front, behind, rfl, hcookie, hfront⟩, hvalue⟩
    rw [List.forall_mem_append, List.forall_mem_cons] at h
    refine ⟨front, p, behind, rfl, (valued?_eq_some_iff h.2.1).2 ⟨content, hne, hcookie, hvalue⟩,
      ?_⟩
    exact fun q hq => (valued?_eq_none_iff (h.1 q hq)).2 (hfront q hq)

/-! ## The pairs of a request -/

/-- Every cookie field can be read. -/
def IsReadable (headers : Headers) : Prop :=
  ∀ value ∈ headers.getAll "cookie", value.all isVisible = true

instance (headers : Headers) : Decidable (IsReadable headers) :=
  inferInstanceAs (Decidable (∀ value ∈ headers.getAll "cookie", value.all isVisible = true))

/-- The pairs of all cookie fields, in order. -/
def pairs (headers : Headers) : List (List UInt8) :=
  (headers.getAll "cookie").flatMap pairsOf

/-- Values put together to one, with a semicolon and a blank between them. -/
def joined (values : List (List UInt8)) : List UInt8 :=
  List.intercalate [semicolon, 0x20] values

/-- The request with one cookie field in place of all that it has. -/
def joinCookies (headers : Headers) : Headers :=
  headers.insert "cookie" (joined (headers.getAll "cookie"))

theorem visible_of_mem_pairs (h : IsReadable headers) (hp : p ∈ pairs headers) :
    p.all isVisible = true := by
  obtain ⟨value, hvalue, hp⟩ := List.mem_flatMap.1 hp
  exact List.all_eq_true.1 ((all_pairsOf value).trans (h value hvalue)) p hp

theorem cookies_of_isReadable (h : IsReadable headers) :
    cookies headers = (pairs headers).filterMap cookieOf? := by
  rw [pairs, List.filterMap_flatMap]
  exact List.flatMap_congr fun value hvalue => cookiesIn_of_visible (h value hvalue)

/-- A blank in front of a value belongs to no pair. -/
theorem pairsOf_blank_cons (value : List UInt8) : pairsOf (0x20 :: value) = pairsOf value := by
  obtain ⟨piece, rest, hpieces⟩ :=
    List.exists_cons_of_ne_nil (Text.pieces_ne_nil (· == semicolon) value)
  rw [pairsOf, pairsOf, Text.pieces_cons_of_not_sep (by decide) hpieces, hpieces]
  rfl

theorem pairsOf_joined (values : List (List UInt8)) :
    pairsOf (joined values) = values.flatMap pairsOf := by
  induction values with
  | nil => rfl
  | cons value values ih =>
    cases values with
    | nil => rw [joined, List.intercalate_singleton, List.flatMap_singleton]
    | cons next values =>
      have hjoined : joined (value :: next :: values) =
          value ++ semicolon :: 0x20 :: joined (next :: values) := by
        rw [joined, List.intercalate_cons_cons, List.append_assoc]
        rfl
      rw [List.flatMap_cons, hjoined, pairsOf_append, pairsOf_blank_cons, ih]

theorem pairs_joinCookies (headers : Headers) : pairs (joinCookies headers) = pairs headers := by
  rw [pairs, pairs, joinCookies, Headers.getAll_insert_self, List.flatMap_singleton, pairsOf_joined]

theorem isReadable_joinCookies (h : IsReadable headers) : IsReadable (joinCookies headers) := by
  have hall : ((pairs (joinCookies headers)).all (·.all isVisible)) = true := by
    rw [pairs_joinCookies]
    exact List.all_eq_true.2 fun p hp => visible_of_mem_pairs h hp
  intro value hvalue
  rw [joinCookies, Headers.getAll_insert_self, List.mem_singleton] at hvalue
  rw [hvalue, ← all_pairsOf]
  rwa [pairs, joinCookies, Headers.getAll_insert_self, List.flatMap_singleton] at hall

/-! ## What a resolver finds -/

namespace TokenResolver

variable {r : TokenResolver}

/-- What a resolver finds in a request: the first value of the first of its names that has one; and
if none of them has one, the token of the `authorization` field or nothing. -/
inductive Finds (r : TokenResolver) (headers : Headers) : Option String → Prop
  | cookie {before after : List String} {name token : String}
      (hnames : r.cookieNames = before ++ name :: after)
      (hbefore : ∀ n ∈ before, HasNoValue (pairs headers) n)
      (hvalue : IsFirstValue (pairs headers) name (Text.bytes token)) : Finds r headers (some token)
  | bearer (hnames : ∀ n ∈ r.cookieNames, HasNoValue (pairs headers) n)
      (hallowed : r.allowBearer = true) : Finds r headers ((bearer? headers).map String.ofList)
  | nothing (hnames : ∀ n ∈ r.cookieNames, HasNoValue (pairs headers) n)
      (hforbidden : r.allowBearer = false) : Finds r headers none

theorem extract?_eq (r : TokenResolver) (headers : Headers) :
    r.extract? headers =
      ((r.inCookies? (cookies headers)).or (if r.allowBearer then bearer? headers else none)).map
        String.ofList :=
  rfl

theorem inCookies?_eq_none_iff (h : IsReadable headers) :
    r.inCookies? (cookies headers) = none ↔
      ∀ n ∈ r.cookieNames, HasNoValue (pairs headers) n := by
  rw [inCookies?, cookies_of_isReadable h, List.findSome?_eq_none_iff]
  exact forall₂_congr fun n _ => valueOf?_eq_none_iff fun p hp => visible_of_mem_pairs h hp

theorem inCookies?_eq_some_iff (h : IsReadable headers) {value : List Char} :
    r.inCookies? (cookies headers) = some value ↔
      ∃ before name after content, r.cookieNames = before ++ name :: after ∧
        (∀ n ∈ before, HasNoValue (pairs headers) n) ∧
        IsFirstValue (pairs headers) name content ∧ value = content.map char := by
  have hvisible := fun p (hp : p ∈ pairs headers) => visible_of_mem_pairs h hp
  rw [inCookies?, cookies_of_isReadable h, List.findSome?_eq_some_iff]
  simp only [valueOf?_eq_none_iff hvisible, valueOf?_eq_some_iff hvisible]
  constructor
  · rintro ⟨before, name, after, hnames, ⟨content, hfirst, hvalue⟩, hbefore⟩
    exact ⟨before, name, after, content, hnames, hbefore, hfirst, hvalue⟩
  · rintro ⟨before, name, after, content, hnames, hbefore, hfirst, hvalue⟩
    exact ⟨before, name, after, hnames, ⟨content, hfirst, hvalue⟩, hbefore⟩

theorem visible_of_isFirstValue (h : IsReadable headers)
    (hfirst : IsFirstValue (pairs headers) name content) : content.all isVisible = true := by
  obtain ⟨-, p, front, behind, hpairs, hcookie, -⟩ := hfirst
  have hp : p.all isVisible = true := visible_of_mem_pairs h (by simp [hpairs])
  rw [hcookie.2, pair, List.all_append, List.all_cons, Bool.and_eq_true, Bool.and_eq_true] at hp
  exact hp.2.2

theorem extract?_eq_iff (h : IsReadable headers) (result : Option String) :
    r.extract? headers = result ↔ r.Finds headers result := by
  rw [extract?_eq]
  constructor
  · rintro rfl
    cases hfound : r.inCookies? (cookies headers) with
    | some value =>
      obtain ⟨before, name, after, content, hnames, hbefore, hfirst, rfl⟩ :=
        (inCookies?_eq_some_iff h).1 hfound
      have hcontent : Text.bytes (String.ofList (content.map char)) = content :=
        bytes_of_toList_eq (visible_of_isFirstValue h hfirst) String.toList_ofList
      exact .cookie hnames hbefore (hcontent.symm ▸ hfirst)
    | none =>
      have hnames := (inCookies?_eq_none_iff h).1 hfound
      cases hbearer : r.allowBearer with
      | true => exact .bearer hnames hbearer
      | false => exact .nothing hnames hbearer
  · intro hfinds
    cases hfinds with
    | @cookie before after name token hnames hbefore hvalue =>
      have hfound : r.inCookies? (cookies headers) = some ((Text.bytes token).map char) :=
        (inCookies?_eq_some_iff h).2 ⟨before, name, after, _, hnames, hbefore, hvalue, rfl⟩
      have htoken := (bytes_eq_iff (visible_of_isFirstValue h hvalue)).1 rfl
      rw [hfound, ← htoken, Option.some_or, Option.map_some, String.ofList_toList]
    | bearer hnames hallowed =>
      rw [(inCookies?_eq_none_iff h).2 hnames, hallowed]
      rfl
    | nothing hnames hforbidden =>
      rw [(inCookies?_eq_none_iff h).2 hnames, hforbidden]
      rfl

theorem extract?_joinCookies (h : IsReadable headers) :
    r.extract? (joinCookies headers) = r.extract? headers := by
  have hcookies : cookies (joinCookies headers) = cookies headers := by
    rw [cookies_of_isReadable (isReadable_joinCookies h), pairs_joinCookies,
      cookies_of_isReadable h]
  have hbearer : bearer? (joinCookies headers) = bearer? headers := by
    rw [bearer?, bearer?, Headers.get?, Headers.get?, joinCookies,
      Headers.getAll_insert_of_ne _ (by decide)]
  rw [extract?_eq, extract?_eq, hcookies, hbearer]

/-- A cookie without a value is passed over under every name. -/
theorem inCookies?_append_empty (name : List Char) (front behind : List Cookie) :
    r.inCookies? (front ++ (name, []) :: behind) = r.inCookies? (front ++ behind) := by
  simp [inCookies?, valueOf?]

theorem extract?_of_empty_more {name value value' : List UInt8} (hname : equals ∉ name)
    (h : HasOneMore (pair name []) value value') {before after : List Header}
    (hread : IsReadable (withCookie before after value')) :
    r.extract? (withCookie before after value) = r.extract? (withCookie before after value') := by
  have hvisible : (pair name []).all isVisible = true := by
    obtain ⟨front, behind, -, hvalue'⟩ := h
    have hmem : value' ∈ (withCookie before after value').getAll "cookie" := by
      simp [withCookie, Headers.getAll]
    refine List.all_eq_true.1 ((all_pairsOf value').trans (hread _ hmem)) _ ?_
    simp [hvalue']
  have hmore := cookiesIn_of_hasOneMore h hname
  rw [if_pos hvisible] at hmore
  rw [extract?_withCookie, extract?_withCookie]
  rcases hmore with hsame | ⟨front, behind, hvalue, hvalue'⟩
  · rw [hsame]
  · have hempty := inCookies?_append_empty (r := r) (name.map char)
      (cookies ⟨before⟩ ++ front) (behind ++ cookies ⟨after⟩)
    rw [hvalue, hvalue']
    simp only [List.append_assoc, List.cons_append] at hempty ⊢
    rw [← hempty]
    rfl

/-- **Which cookie counts.**  Of a request whose cookie fields can be read, the resolver finds the
first value, over all fields in order, of the first of its names that has one, and what the
`authorization` field holds only if no name has one and it may look there.  It does not matter
whether the pairs stand in several fields or in one; and a pair without a value, wherever it is put
in, hides nothing: no later value, no later name and not the `authorization` field. -/
theorem extract?_precedence (r : TokenResolver) {headers : Headers} (h : IsReadable headers) :
    (∀ result, r.extract? headers = result ↔ r.Finds headers result) ∧
      r.extract? (joinCookies headers) = r.extract? headers ∧
      ∀ before after name value value', equals ∉ name → HasOneMore (pair name []) value value' →
        headers = withCookie before after value' →
          r.extract? (withCookie before after value) = r.extract? headers := by
  refine ⟨extract?_eq_iff h, extract?_joinCookies h, ?_⟩
  rintro before after name value value' hname hmore rfl
  exact extract?_of_empty_more hname hmore h

/-- Two fields, and two names of which both have a value. -/
theorem extract?_precedence_two_fields :
    let r : TokenResolver := { secret := [], cookieNames := ["a", "b"] }
    let headers := withCookie [] [⟨"cookie", Text.bytes "b=2;  a=3"⟩] (Text.bytes "a=; b=1")
    IsReadable headers ∧ r.Finds headers (some "3") ∧
      joined (headers.getAll "cookie") = Text.bytes "a=; b=1; b=2;  a=3" ∧
      r.extract? (joinCookies headers) = some "3" ∧
      r.extract? (withCookie [] [⟨"cookie", Text.bytes "b=2;  a=3"⟩] (Text.bytes "b=1")) =
        some "3" := by
  intro r headers
  have hread : IsReadable headers := by decide +kernel
  have hmore : HasOneMore (pair (Text.bytes "a") []) (Text.bytes "b=1") (Text.bytes "a=; b=1") :=
    ⟨[], [Text.bytes "b=1"], by decide +kernel, by decide +kernel⟩
  have hfound : r.extract? headers = some "3" := by decide +kernel
  obtain ⟨hfinds, hjoined, hempty⟩ := extract?_precedence r hread
  exact ⟨hread, (hfinds _).1 hfound, by decide +kernel, hjoined.trans hfound,
    (hempty [] _ _ _ _ (by decide +kernel) hmore rfl).trans hfound⟩

end TokenResolver
end Session
end Gatehouse
