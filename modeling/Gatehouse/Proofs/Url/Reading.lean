import Gatehouse.Proofs.Http.Target
import Gatehouse.Proofs.Url.Origin
import Gatehouse.Proofs.Url.Queries

/-!
# Where a text is cut when it is read

Of a text that is read as a URL only the ends and the line breaks are dropped; around any character
that is neither, a text can be cleaned in two parts.  So one can say of the text itself where it
will be cut: what stands behind the first `#` is the fragment, and what stands behind the first `?`
in front of it is the query.

* `cleaned_append_cons` — a text is cleaned in two parts around a visible character.
* `parts_of_parse` — the query and the fragment that are read are what stands behind the marks.
* `pairs_eq_iff` — when a query that is put behind a text holds the same after the whole has been
  read.
-/

set_option autoImplicit false

namespace Gatehouse
namespace Url

/-! ## Cleaning -/

/-- What is left of a text that stands in front of a visible character. -/
def leading (cs : List Char) : List Char :=
  (cs.dropWhile isEdge).filter fun c => !isBreak c

/-- What is left of a text that stands behind a visible character. -/
def ending (cs : List Char) : List Char :=
  (cs.reverse.dropWhile isEdge).reverse.filter fun c => !isBreak c

theorem isBreak_of_visible {c : Char} (hc : isEdge c = false) : isBreak c = false := by
  have hvisible : ∀ d : Char, isEdge d = true → c ≠ d := by
    rintro d hd rfl
    rw [hc] at hd
    cases hd
  simp only [isBreak, Bool.or_eq_false_iff, beq_eq_false_iff_ne]
  exact ⟨⟨hvisible _ (by decide), hvisible _ (by decide)⟩, hvisible _ (by decide)⟩

theorem dropWhile_append_cons {c : Char} (hc : isEdge c = false) (front behind : List Char) :
    (front ++ c :: behind).dropWhile isEdge = front.dropWhile isEdge ++ c :: behind := by
  have hstop : (c :: behind).dropWhile isEdge = c :: behind :=
    List.dropWhile_cons_of_neg (by rw [hc]; exact Bool.false_ne_true)
  rw [List.dropWhile_append, hstop]
  split
  · next hempty => rw [List.isEmpty_iff.1 hempty, List.nil_append]
  · rfl

theorem ending_append_cons {c : Char} (hc : isEdge c = false) (front behind : List Char) :
    ending (front ++ c :: behind) = (front.filter fun d => !isBreak d) ++ c :: ending behind := by
  have hkept : ∀ rest : List Char, (c :: rest).filter (fun d => !isBreak d) =
      c :: rest.filter fun d => !isBreak d :=
    fun rest => List.filter_cons_of_pos (by rw [isBreak_of_visible hc]; rfl)
  rw [ending, ending, List.reverse_append, List.reverse_cons, List.append_assoc,
    List.singleton_append, dropWhile_append_cons hc, List.reverse_append, List.reverse_cons,
    List.reverse_reverse, List.append_assoc, List.singleton_append, List.filter_append, hkept]

theorem cleaned_eq (cs : List Char) : cleaned cs = ending (cs.dropWhile isEdge) := rfl

/-- **A text is cleaned in two parts around a visible character.** -/
theorem cleaned_append_cons {c : Char} (hc : isEdge c = false) (front behind : List Char) :
    cleaned (front ++ c :: behind) = leading front ++ c :: ending behind := by
  rw [cleaned_eq, dropWhile_append_cons hc, ending_append_cons hc]
  rfl

theorem ending_of_visible {cs : List Char} (h : ∀ c ∈ cs, 0x20 < c.toNat) : ending cs = cs := by
  have hcleaned := cleaned_of_visible h
  rwa [cleaned_eq, dropWhile_isEdge h] at hcleaned

theorem mem_of_mem_leading {cs : List Char} {c : Char} (h : c ∈ leading cs) : c ∈ cs :=
  (List.dropWhile_sublist isEdge).subset (List.mem_filter.1 h).1

theorem mem_of_mem_cleaned {cs : List Char} {c : Char} (h : c ∈ cleaned cs) : c ∈ cs := by
  have hmem := (List.mem_filter.1 h).1
  have hinner := (List.dropWhile_sublist isEdge).subset (List.mem_reverse.1 hmem)
  exact (List.dropWhile_sublist isEdge).subset (List.mem_reverse.1 hinner)

/-! ## Schemes -/

/-- Whether a character may stand in a scheme. -/
def isSchemePart (c : Char) : Bool :=
  c.isAlphanum || c == '+' || c == '-' || c == '.'

theorem scheme?_eq (cs : List Char) :
    scheme? cs = match cs.takeWhile isSchemePart, cs.dropWhile isSchemePart with
      | c :: scheme, ':' :: rest =>
        if c.isAlpha then some (String.ofList ((c :: scheme).map Char.toLower), rest) else none
      | _, _ => none := rfl

/-- A scheme is what stands in front of the first colon, and it is read whatever follows. -/
theorem exists_of_scheme? {cs rest : List Char} {name : String}
    (h : scheme? cs = some (name, rest)) :
    ∃ scheme, cs = scheme ++ ':' :: rest ∧ (∀ c ∈ scheme, isSchemePart c = true) ∧
      ∀ more, scheme? (scheme ++ ':' :: more) = some (name, more) := by
  rw [scheme?_eq] at h
  split at h
  · next c tail rest' htake hdrop =>
    split at h
    · next halpha =>
      cases h
      have hparts : ∀ d ∈ c :: tail, isSchemePart d = true := by
        intro d hd
        rw [← htake] at hd
        exact List.all_eq_true.1 List.all_takeWhile d hd
      refine ⟨c :: tail, ?_, hparts, fun more => ?_⟩
      · rw [← htake, ← hdrop, List.takeWhile_append_dropWhile]
      · have htake' : ((c :: tail) ++ ':' :: more).takeWhile isSchemePart = c :: tail := by
          rw [List.takeWhile_append_of_pos hparts, List.takeWhile_cons_of_neg (by decide),
            List.append_nil]
        have hdrop' : ((c :: tail) ++ ':' :: more).dropWhile isSchemePart = ':' :: more := by
          rw [List.dropWhile_append_of_pos hparts, List.dropWhile_cons_of_neg (by decide)]
        rw [scheme?_eq, htake', hdrop']
        exact if_pos halpha
    · cases h
  · cases h

/-! ## Whole URLs -/

/-- What reading the rest of a URL leaves as it was. -/
structure Keeps (url read : Url) : Prop where
  scheme : read.scheme = url.scheme
  query : read.query = url.query
  fragment : read.fragment = url.fragment

/-- The name and the password in an authority, if there are any. -/
def userinfoOf (cs : List Char) : Option (List Char) :=
  (cutAtLast? '@' cs).map Prod.fst

/-- The host and the port in an authority. -/
def serverOf (cs : List Char) : List Char :=
  ((cutAtLast? '@' cs).map Prod.snd).getD cs

/-- A URL with the name and the password that are in an authority. -/
def named (url : Url) (cs : List Char) : Url :=
  let (name, password) := Text.cut (· == ':') ((userinfoOf cs).getD [])
  { url with
    username := String.ofList (Percent.encode Percent.inUserinfo name)
    password := String.ofList (Percent.encode Percent.inUserinfo (password.getD [])) }

theorem withAuthority_eq (url : Url) (cs : List Char) (followed : Bool) :
    url.withAuthority cs followed =
      if userinfoOf cs = some [] && (serverOf cs).isEmpty && followed then .error .emptyHost
      else do
        let host ← hostOf (isSpecial url.scheme) (splitHost false (serverOf cs)).1
        if host.isNone &&
            !((splitHost false (serverOf cs)).2.isEmpty && (url.named cs).credentials.isEmpty) then
          throw .emptyHost
        let port ← port? url.scheme (splitHost false (serverOf cs)).2.tail
        return { url.named cs with host := some (host.getD (.name "")), port } := by
  unfold withAuthority named serverOf userinfoOf
  rcases cutAtLast? '@' cs with _ | ⟨userinfo, server⟩
  · rfl
  · rfl

theorem keeps_of_withAuthority {url read : Url} {cs : List Char} {followed : Bool}
    (h : url.withAuthority cs followed = .ok read) : Keeps url read := by
  rw [withAuthority_eq] at h
  split at h
  · cases h
  · obtain ⟨host, -, h⟩ := exists_of_bind_eq_ok h
    split at h
    · cases h
    · obtain ⟨port, -, h⟩ := exists_of_bind_eq_ok h
      cases h
      exact ⟨rfl, rfl, rfl⟩

theorem keeps_of_withFilePath {url read : Url} {cs : List Char}
    (h : url.withFilePath cs = .ok read) : Keeps url read := by
  unfold withFilePath at h
  split at h
  · split at h
    · dsimp only at h
      split at h
      · cases h
        exact ⟨rfl, rfl, rfl⟩
      · obtain ⟨host, -, h⟩ := exists_of_bind_eq_ok h
        cases h
        exact ⟨rfl, rfl, rfl⟩
    · cases h
      exact ⟨rfl, rfl, rfl⟩
  · cases h
    exact ⟨rfl, rfl, rfl⟩

theorem keeps_of_withRest {url read : Url} {cs : List Char} (h : url.withRest cs = .ok read) :
    Keeps url read := by
  unfold withRest at h
  dsimp only at h
  split at h
  · exact keeps_of_withFilePath h
  · split at h
    · obtain ⟨named, hnamed, h⟩ := exists_of_bind_eq_ok h
      cases h
      exact ⟨(keeps_of_withAuthority hnamed).scheme, (keeps_of_withAuthority hnamed).query,
        (keeps_of_withAuthority hnamed).fragment⟩
    · split at h
      · obtain ⟨named, hnamed, h⟩ := exists_of_bind_eq_ok h
        cases h
        exact ⟨(keeps_of_withAuthority hnamed).scheme, (keeps_of_withAuthority hnamed).query,
          (keeps_of_withAuthority hnamed).fragment⟩
      · cases h
        exact ⟨rfl, rfl, rfl⟩
      · cases h
        exact ⟨rfl, rfl, rfl⟩

/-- What stands between the first `?` and the first `#` of a text, if there is a `?` in front of the
`#`. -/
def queryOf (cs : List Char) : Option (List Char) :=
  (Text.cut (· == '?') (Text.cut (· == '#') (cleaned cs)).1).2

/-- What stands behind the first `#` of a text, if there is one. -/
def fragmentOf (cs : List Char) : Option (List Char) :=
  (Text.cut (· == '#') (cleaned cs)).2

/-- The bytes that cannot stand in the query of a URL with some scheme. -/
def inQueryOf (scheme : String) : UInt8 → Bool :=
  if isSpecial scheme then Percent.inSpecialQuery else Percent.inQuery

theorem keepsForm_inQueryOf (scheme : String) : Percent.KeepsForm (inQueryOf scheme) := by
  unfold inQueryOf
  cases isSpecial scheme with
  | true => exact Percent.keepsForm_inSpecialQuery
  | false => exact Percent.keepsForm_inQuery

/-- What stands for a scheme is not a mark. -/
theorem ne_mark_of_isSchemePart {c : Char} (h : isSchemePart c = true) : c ≠ '?' ∧ c ≠ '#' := by
  constructor
  · rintro rfl
    revert h
    decide
  · rintro rfl
    revert h
    decide

/-- A mark is not cut off with the scheme. -/
theorem cut_scheme {scheme : List Char} (h : ∀ c ∈ scheme, isSchemePart c = true) {mark : Char}
    (hmark : mark = '?' ∨ mark = '#') (rest : List Char) :
    Text.cut (· == mark) (scheme ++ ':' :: rest) =
      (scheme ++ ':' :: (Text.cut (· == mark) rest).1, (Text.cut (· == mark) rest).2) := by
  have hfree : ∀ c ∈ scheme ++ [':'], (c == mark) = false := by
    intro c hc
    rw [beq_eq_false_iff_ne]
    rcases List.mem_append.1 hc with hc | hc
    · have hne := ne_mark_of_isSchemePart (h c hc)
      rcases hmark with rfl | rfl
      · exact hne.1
      · exact hne.2
    · rw [List.mem_singleton.1 hc]
      rcases hmark with rfl | rfl
      · decide
      · decide
  have hcut := Text.cut_append_of_free hfree rest
  rwa [List.append_assoc, List.append_assoc, List.singleton_append, List.singleton_append] at hcut

/-- **The query and the fragment of a URL are what stands behind the marks of its text.** -/
theorem parts_of_parse {text : String} {url : Url} (h : parse text = .ok url) :
    url.query = (queryOf text.toList).map (fun q =>
        String.ofList (Percent.encode (inQueryOf url.scheme) q)) ∧
      url.fragment = (fragmentOf text.toList).map fun f =>
        String.ofList (Percent.encode Percent.inFragment f) := by
  unfold parse at h
  split at h
  · cases h
  · next name rest hscheme =>
    obtain ⟨scheme, htext, hparts, -⟩ := exists_of_scheme? hscheme
    dsimp only at h
    have hkeeps := keeps_of_withRest h
    have hname : url.scheme = name := hkeeps.scheme
    rw [hkeeps.query, hkeeps.fragment, hname, queryOf, fragmentOf, htext,
      cut_scheme hparts (.inr rfl), cut_scheme hparts (.inl rfl)]
    exact ⟨rfl, rfl⟩

/-- The names and values in a query, if there is one. -/
def pairs (query : Option String) : List (String × String) :=
  (query.map Form.parse).getD []

theorem pairs_empty : pairs (some "") = [] := by decide +kernel

theorem pairs_of_parse {text : String} {url : Url} (h : parse text = .ok url) :
    pairs url.query = pairs ((queryOf text.toList).map String.ofList) := by
  rw [(parts_of_parse h).1, pairs, pairs]
  cases queryOf text.toList with
  | none => rfl
  | some q => exact Form.parse_encode (keepsForm_inQueryOf url.scheme) q

/-! ## Queries behind other texts -/

theorem queryOf_of_free {front : List Char} (hmark : '?' ∉ front) : queryOf front = none := by
  have hcleaned : '?' ∉ (Text.cut (· == '#') (cleaned front)).1 := by
    intro hmem
    refine hmark (mem_of_mem_cleaned ?_)
    rcases hcut : Text.cut (· == '#') (cleaned front) with ⟨kept, _ | behind⟩
    · rw [hcut] at hmem
      rwa [Text.cut_none hcut]
    · rw [hcut] at hmem
      obtain ⟨sep, -, heq⟩ := Text.cut_some hcut
      rw [heq]
      exact List.mem_append_left _ hmem
  rw [queryOf, cut_of_free hcleaned]

/-- Behind a `#` there is no query any more. -/
theorem queryOf_append_of_hash {front : List Char} (hhash : '#' ∈ front) (more : List Char) :
    queryOf (front ++ more) = queryOf front := by
  obtain ⟨before, behind, rfl, hfree⟩ := List.eq_append_cons_of_mem hhash
  have hbefore : '#' ∉ leading before := fun hmem => hfree (mem_of_mem_leading hmem)
  have hread : ∀ rest, queryOf (before ++ '#' :: rest) =
      (Text.cut (· == '?') (leading before)).2 := by
    intro rest
    rw [queryOf, cleaned_append_cons (by decide), cut_append_cons hbefore]
  rw [List.append_assoc, List.cons_append, hread, hread]

variable {query : List Char}

theorem not_hash_of_visible (hquery : ∀ c ∈ query, isQueryPart c = true) : '#' ∉ query :=
  fun hmem => absurd (hquery _ hmem) (by decide)

theorem visible_of_query (hquery : ∀ c ∈ query, isQueryPart c = true) :
    ∀ c ∈ query, 0x20 < c.toNat :=
  fun c hc => (isQueryPart_iff.1 (hquery c hc)).1

/-- A query is cut off behind the first `?`, if no `#` is in front of it. -/
theorem queryOf_append_cons (hquery : ∀ c ∈ query, isQueryPart c = true) {front : List Char}
    (hhash : '#' ∉ front) :
    queryOf (front ++ '?' :: query) =
      (Text.cut (· == '?') (leading front ++ '?' :: query)).2 := by
  have hfree : '#' ∉ leading front ++ '?' :: query := by
    intro hmem
    rcases List.mem_append.1 hmem with hmem | hmem
    · exact hhash (mem_of_mem_leading hmem)
    · rcases List.mem_cons.1 hmem with heq | hmem
      · exact absurd heq (by decide)
      · exact not_hash_of_visible hquery hmem
  rw [queryOf, cleaned_append_cons (by decide), ending_of_visible (visible_of_query hquery),
    cut_of_free hfree]

theorem queryOf_append_of_free (hquery : ∀ c ∈ query, isQueryPart c = true) {front : List Char}
    (hhash : '#' ∉ front) (hmark : '?' ∉ front) :
    queryOf (front ++ '?' :: query) = some query := by
  rw [queryOf_append_cons hquery hhash,
    cut_append_cons fun hmem => hmark (mem_of_mem_leading hmem)]

/-- A second `?` is part of the query that the first one starts. -/
theorem exists_queryOf_append_of_mark (hquery : ∀ c ∈ query, isQueryPart c = true)
    {front : List Char} (hhash : '#' ∉ front) (hmark : '?' ∈ front) :
    ∃ kept, queryOf (front ++ '?' :: query) = some (kept ++ '?' :: query) := by
  obtain ⟨before, behind, rfl, hfree⟩ := List.eq_append_cons_of_mem hmark
  refine ⟨behind.filter fun c => !isBreak c, ?_⟩
  have hbefore : '?' ∉ leading before := fun hmem => hfree (mem_of_mem_leading hmem)
  have hvisible := visible_of_query hquery
  have hnohash : '#' ∉ leading before ++ '?' :: ((behind.filter fun c => !isBreak c) ++
      '?' :: query) := by
    intro hmem
    simp only [List.mem_append, List.mem_cons] at hmem
    rcases hmem with hmem | heq | hmem | heq | hmem
    · exact hhash (List.mem_append_left _ (mem_of_mem_leading hmem))
    · exact absurd heq (by decide)
    · exact hhash (List.mem_append_right _ (List.mem_cons_of_mem _ (List.mem_filter.1 hmem).1))
    · exact absurd heq (by decide)
    · exact not_hash_of_visible hquery hmem
  rw [queryOf, List.append_assoc, List.cons_append, cleaned_append_cons (by decide),
    ending_append_cons (by decide), ending_of_visible hvisible, cut_of_free hnohash,
    cut_append_cons hbefore]

/-! ## Queries that arrive -/

/-- When a query that is put behind a text arrives: if the text has neither mark.  Otherwise no
query arrives but one: the one that the text has of its own, and that only if a `#` cuts off what is
put behind it, or nothing is. -/
def LetsThrough (front : String) (query : Option String) : Prop :=
  ('?' ∉ front.toList ∧ '#' ∉ front.toList) ∨
    (pairs ((queryOf front.toList).map String.ofList) = pairs query ∧
      ('#' ∈ front.toList ∨ query.filter (fun q => !q.isEmpty) = none))

/-- **A query that is put behind a text holds the same after the whole has been read, just if the
text lets it through.** -/
theorem pairs_eq_iff {front : String} {query : Option String} {url : Url}
    (hquery : ∀ q, query = some q → ∀ c ∈ q.toList, isQueryPart c = true)
    (h : parse (front ++ marked "?" (query.filter fun q => !q.isEmpty)) = .ok url) :
    pairs url.query = pairs query ↔ LetsThrough front query := by
  rw [pairs_of_parse h, LetsThrough, String.toList_append, marked_toList]
  cases hasked : query.filter fun q => !q.isEmpty with
  | none =>
    have hempty : pairs query = [] := by
      cases query with
      | none => rfl
      | some q =>
        have hq : q = "" := by simpa using Option.filter_eq_none_iff.1 hasked q rfl
        rw [hq, pairs_empty]
    simp only [List.append_nil, or_true, and_true]
    refine ⟨.inr, fun hlets => ?_⟩
    rcases hlets with ⟨hmark, -⟩ | hsame
    · rw [queryOf_of_free hmark, hempty]
      rfl
    · exact hsame
  | some q =>
    obtain ⟨rfl, -⟩ := Option.filter_eq_some_iff.1 hasked
    have hchars := hquery q rfl
    simp only [reduceCtorEq, or_false]
    by_cases hhash : '#' ∈ front.toList
    · rw [queryOf_append_of_hash hhash]
      exact ⟨fun hsame => .inr ⟨hsame, hhash⟩,
        fun hlets => hlets.elim (fun hfree => absurd hhash hfree.2) And.left⟩
    · by_cases hmark : '?' ∈ front.toList
      · obtain ⟨kept, hkept⟩ := exists_queryOf_append_of_mark hchars hhash hmark
        rw [hkept]
        refine ⟨fun hsame => ?_, fun hlets => ?_⟩
        · refine absurd ?_ (Form.parse_append_ne kept q.toList)
          rw [String.ofList_toList]
          exact hsame
        · exact hlets.elim (fun hfree => absurd hmark hfree.1) fun hown => absurd hown.2 hhash
      · rw [queryOf_append_of_free hchars hhash hmark, Option.map_some, String.ofList_toList]
        exact ⟨fun _ => .inl ⟨hmark, hhash⟩, fun _ => rfl⟩

end Url
end Gatehouse
