import Gatehouse.Proofs.Url.Steps

/-!
# Paths below an origin

An origin is the text of a URL that says where a server is and nothing more.  If a path is put
behind it, and perhaps a query, then reading the whole gives a URL with just that path.

* `path_of_parse` — the path of a URL that was read from an origin, a path and a query.
* `segments_of_parse` — whatever is put behind an origin, the path is one that has been read so.
-/

set_option autoImplicit false

namespace Gatehouse
namespace Url

/-! ## Cutting -/

theorem cut_of_free {cs : List Char} {sep : Char} (h : sep ∉ cs) :
    Text.cut (· == sep) cs = (cs, none) := by
  induction cs with
  | nil => rfl
  | cons c cs ih =>
    rw [List.mem_cons, not_or] at h
    rw [Text.cut, if_neg (by simpa using Ne.symm h.1), ih h.2]

theorem cut_append_cons {front : List Char} {sep : Char} (h : sep ∉ front) (behind : List Char) :
    Text.cut (· == sep) (front ++ sep :: behind) = (front, some behind) := by
  induction front with
  | nil => simp [Text.cut]
  | cons c front ih =>
    rw [List.mem_cons, not_or] at h
    rw [List.cons_append, Text.cut, if_neg (by simpa using Ne.symm h.1), ih h.2]

theorem dropWhile_isEdge {cs : List Char} (h : ∀ c ∈ cs, 0x20 < c.toNat) :
    cs.dropWhile isEdge = cs := by
  cases cs with
  | nil => rfl
  | cons c cs =>
    refine List.dropWhile_cons_of_neg ?_
    simpa [isEdge] using h c List.mem_cons_self

theorem filter_isBreak {cs : List Char} (h : ∀ c ∈ cs, 0x20 < c.toNat) :
    cs.filter (fun c => !isBreak c) = cs := by
  rw [List.filter_eq_self]
  intro c hc
  have hvisible := h c hc
  simp only [isBreak, Bool.not_eq_true', Bool.or_eq_false_iff, beq_eq_false_iff_ne]
  refine ⟨⟨?_, ?_⟩, ?_⟩ <;>
  · rintro rfl
    revert hvisible
    decide

/-- What is dropped before reading is dropped behind a text without blanks and controls. -/
theorem cleaned_append {front : List Char} (h : ∀ c ∈ front, 0x20 < c.toNat) (more : List Char) :
    ∃ rest, cleaned (front ++ more) = front ++ rest := by
  cases front with
  | nil => exact ⟨cleaned more, rfl⟩
  | cons c front =>
    have hrev : ∀ d ∈ (c :: front).reverse, 0x20 < d.toNat :=
      fun d hd => h d (List.mem_reverse.1 hd)
    have hfirst : ((c :: front) ++ more).dropWhile isEdge = (c :: front) ++ more :=
      List.dropWhile_cons_of_neg (by simpa [isEdge] using h c List.mem_cons_self)
    rw [cleaned, hfirst, List.reverse_append, List.dropWhile_append, dropWhile_isEdge hrev]
    split
    · exact ⟨[], by rw [List.reverse_reverse, filter_isBreak h, List.append_nil]⟩
    · rw [List.reverse_append, List.reverse_reverse, List.filter_append, filter_isBreak h]
      exact ⟨_, rfl⟩

/-- A text without blanks and controls is read as it stands. -/
theorem cleaned_of_visible {cs : List Char} (h : ∀ c ∈ cs, 0x20 < c.toNat) : cleaned cs = cs := by
  rw [cleaned, dropWhile_isEdge h, dropWhile_isEdge fun c hc => h c (List.mem_reverse.1 hc),
    List.reverse_reverse, filter_isBreak h]

/-! ## Origins -/

/-- Whether a text is a scheme of the web, in letters of any size. -/
def IsWebScheme (scheme : List Char) : Prop :=
  scheme.map Char.toLower = "http".toList ∨ scheme.map Char.toLower = "https".toList

/-- Whether a character may stand in a path that is put behind an origin. -/
def isPathPart (c : Char) : Bool :=
  0x20 < c.toNat && !(c == '?' || c == '#')

/-- Whether a character may stand in a query that is put behind an origin. -/
def isQueryPart (c : Char) : Bool :=
  0x20 < c.toNat && c != '#'

/-- Whether a character may stand where a server is named. -/
def isAuthorityPart (c : Char) : Bool :=
  isPathPart c && !isSlash true c

theorem isPathPart_iff {c : Char} : isPathPart c = true ↔ 0x20 < c.toNat ∧ c ≠ '?' ∧ c ≠ '#' := by
  simp [isPathPart]

theorem isQueryPart_iff {c : Char} : isQueryPart c = true ↔ 0x20 < c.toNat ∧ c ≠ '#' := by
  simp [isQueryPart]

theorem isAuthorityPart_iff {c : Char} :
    isAuthorityPart c = true ↔ isPathPart c = true ∧ isSlash true c = false := by
  simp [isAuthorityPart]

/-- The text of a URL that has a scheme of the web and names a server, and has neither a path nor a
query nor a fragment. -/
def IsOrigin (text : List Char) : Prop :=
  ∃ scheme authority, text = scheme ++ "://".toList ++ authority ∧ IsWebScheme scheme ∧
    authority ≠ [] ∧ ∀ c ∈ authority, isAuthorityPart c = true

theorem isAlpha_of_toLower {c : Char} (h : c.toLower.isAlpha = true) : c.isAlpha = true := by
  unfold Char.toLower at h
  split at h
  · next hupper =>
    exact Bool.or_eq_true_iff.2 (Or.inl (decide_eq_true hupper))
  · exact h

theorem visible_of_isAlpha {c : Char} (h : c.isAlpha = true) : 0x20 < c.toNat := by
  have hfirst : 'A'.val ≤ c.val ∨ 'a'.val ≤ c.val := by
    rcases Bool.or_eq_true_iff.1 h with h | h
    · exact Or.inl (of_decide_eq_true h).1
    · exact Or.inr (of_decide_eq_true (Bool.and_eq_true_iff.1 h).1)
  have hnat : 'A'.val.toNat ≤ c.toNat := by
    rcases hfirst with h | h
    · exact UInt32.le_iff_toNat_le.1 h
    · exact Nat.le_trans (by decide) (UInt32.le_iff_toNat_le.1 h)
  exact Nat.lt_of_lt_of_le (by decide) hnat

namespace IsWebScheme

variable {scheme : List Char}

theorem isAlpha (h : IsWebScheme scheme) : ∀ c ∈ scheme, c.isAlpha = true := by
  intro c hc
  have hlower : c.toLower ∈ scheme.map Char.toLower := List.mem_map_of_mem hc
  refine isAlpha_of_toLower ?_
  have hall : ("http".toList ++ "https".toList).all Char.isAlpha = true := by decide
  refine List.all_eq_true.1 hall _ ?_
  rcases h with h | h
  · rw [h] at hlower
    exact List.mem_append_left _ hlower
  · rw [h] at hlower
    exact List.mem_append_right _ hlower

theorem ne_nil (h : IsWebScheme scheme) : scheme ≠ [] := by
  rintro rfl
  rcases h with h | h <;> cases h

/-- A scheme of the web is read off a text that starts with it. -/
theorem scheme?_append (h : IsWebScheme scheme) (rest : List Char) :
    ∃ name, (name = "http" ∨ name = "https") ∧
      scheme? (scheme ++ ':' :: rest) = some (name, rest) := by
  refine ⟨String.ofList (scheme.map Char.toLower), ?_, ?_⟩
  · rcases h with h | h <;> rw [h]
    · exact Or.inl rfl
    · exact Or.inr rfl
  · obtain ⟨c, tail, rfl⟩ := List.exists_cons_of_ne_nil h.ne_nil
    have hpart : ∀ d ∈ c :: tail, (d.isAlphanum || d == '+' || d == '-' || d == '.') = true :=
      fun d hd => by rw [Char.isAlphanum, h.isAlpha d hd]; rfl
    have htake : ((c :: tail) ++ ':' :: rest).takeWhile
        (fun d => d.isAlphanum || d == '+' || d == '-' || d == '.') = c :: tail := by
      rw [List.takeWhile_append_of_pos hpart, List.takeWhile_cons_of_neg (by decide),
        List.append_nil]
    have hdrop : ((c :: tail) ++ ':' :: rest).dropWhile
        (fun d => d.isAlphanum || d == '+' || d == '-' || d == '.') = ':' :: rest := by
      rw [List.dropWhile_append_of_pos hpart, List.dropWhile_cons_of_neg (by decide)]
    simp only [scheme?, htake, hdrop, if_pos (h.isAlpha c List.mem_cons_self)]

end IsWebScheme

/-! ## Reading -/

/-- In a URL of the web the path starts at the first slash behind the name of the server. -/
theorem path_of_withRest {url read : Url} {cs : List Char} (hspecial : isSpecial url.scheme = true)
    (hfile : url.scheme ≠ "file") (h : url.withRest cs = .ok read) :
    read.path = hierarchical true
      ((cs.dropWhile (isSlash true)).dropWhile fun c => !isSlash true c) := by
  simp only [withRest, if_neg hfile, hspecial, if_true] at h
  -- whatever the authority is read as, the path is put in afterwards
  generalize url.withAuthority _ _ = named at h
  cases named with
  | error error => cases h
  | ok named =>
    cases h
    rfl

/-- Behind two slashes and the name of a server there is nothing but the path. -/
theorem dropWhile_authority {authority path : List Char} (hne : authority ≠ [])
    (hauthority : ∀ c ∈ authority, isSlash true c = false) (hpath : path.head? = some '/') :
    (("//".toList ++ authority ++ path).dropWhile (isSlash true)).dropWhile
      (fun c => !isSlash true c) = path := by
  obtain ⟨c, tail, rfl⟩ := List.exists_cons_of_ne_nil hne
  obtain ⟨path, rfl⟩ : ∃ tail, path = '/' :: tail := by
    cases path with
    | nil => cases hpath
    | cons d path => exact ⟨path, by rw [Option.some.inj hpath]⟩
  have hslashes : ("//".toList ++ (c :: tail) ++ '/' :: path).dropWhile (isSlash true) =
      (c :: tail) ++ '/' :: path := by
    show ('/' :: '/' :: c :: (tail ++ '/' :: path)).dropWhile (isSlash true) = _
    rw [List.dropWhile_cons_of_pos (by decide), List.dropWhile_cons_of_pos (by decide),
      List.dropWhile_cons_of_neg (by simp [hauthority c List.mem_cons_self])]
    rfl
  rw [hslashes, List.dropWhile_append_of_pos fun d hd => by rw [hauthority d hd]; rfl,
    List.dropWhile_cons_of_neg (by decide)]

/-- Whatever is put behind an origin, the segments of the path that is read are written as segments
are. -/
theorem segments_of_parse {origin more : String} {url : Url} (horigin : IsOrigin origin.toList)
    (h : parse (origin ++ more) = .ok url) :
    ∃ path, url.path = .segments ((resolved path).map writeSegment) := by
  obtain ⟨scheme, authority, horigin, hscheme, -, -⟩ := horigin
  have hvisible : ∀ c ∈ scheme ++ [':'], 0x20 < c.toNat := by
    intro c hc
    rcases List.mem_append.1 hc with hc | hc
    · exact visible_of_isAlpha (hscheme.isAlpha c hc)
    · rw [List.mem_singleton.1 hc]
      decide
  obtain ⟨rest, hrest⟩ := cleaned_append hvisible ("//".toList ++ authority ++ more.toList)
  have htext : cleaned (origin ++ more).toList = scheme ++ ':' :: rest := by
    rw [String.toList_append, horigin, ← List.singleton_append, ← List.append_assoc, ← hrest]
    simp
  obtain ⟨name, hname, hread⟩ := hscheme.scheme?_append rest
  rw [parse, htext, hread] at h
  have hspecial : isSpecial name = true ∧ name ≠ "file" := by
    rcases hname with rfl | rfl <;> decide
  rw [path_of_withRest hspecial.1 hspecial.2 h]
  exact exists_hierarchical_eq _

theorem marked_toList (query : Option String) :
    (marked "?" query).toList = match query with
      | none => []
      | some q => '?' :: q.toList := by
  cases query with
  | none => rfl
  | some q => exact String.toList_append

/-- The query of a text is what was put behind it. -/
theorem cut_query {front : List Char} (h : '?' ∉ front) (query : Option String) :
    Text.cut (· == '?') (front ++ (marked "?" query).toList) =
      (front, query.map String.toList) := by
  rw [marked_toList]
  cases query with
  | none => rw [List.append_nil, cut_of_free h, Option.map_none]
  | some q => rw [cut_append_cons h, Option.map_some]

theorem isPathPart_of_mem_front {authority path : List Char}
    (hauthority : ∀ c ∈ authority, isAuthorityPart c = true)
    (hpath : ∀ c ∈ path, isPathPart c = true) :
    ∀ c ∈ "//".toList ++ authority ++ path, isPathPart c = true := by
  intro c hc
  rcases List.mem_append.1 hc with hc | hc
  · rcases List.mem_append.1 hc with hc | hc
    · obtain rfl : c = '/' := by simpa using hc
      decide
    · exact (isAuthorityPart_iff.1 (hauthority c hc)).1
  · exact hpath c hc

theorem isQueryPart_of_mem_marked {query : Option String}
    (hquery : ∀ q, query = some q → ∀ c ∈ q.toList, isQueryPart c = true) :
    ∀ c ∈ (marked "?" query).toList, isQueryPart c = true := by
  intro c hc
  rw [marked_toList] at hc
  cases query with
  | none => cases hc
  | some q =>
    rcases List.mem_cons.1 hc with rfl | hc
    · decide
    · exact hquery q rfl c hc

/-- **The path of a URL that was read from an origin, a path and a query** is that path with its
steps taken, and written as paths are. -/
theorem path_of_parse {origin path : String} {query : Option String} {url : Url}
    (horigin : IsOrigin origin.toList) (hpath : path.toList.head? = some '/')
    (hpathChars : ∀ c ∈ path.toList, isPathPart c = true)
    (hquery : ∀ q, query = some q → ∀ c ∈ q.toList, isQueryPart c = true)
    (h : parse (origin ++ path ++ marked "?" query) = .ok url) :
    url.path = .segments ((resolved path.toList).map writeSegment) := by
  obtain ⟨scheme, authority, horigin, hscheme, hne, hauthority⟩ := horigin
  let front := "//".toList ++ authority ++ path.toList
  let rest := front ++ (marked "?" query).toList
  have htext : (origin ++ path ++ marked "?" query).toList = scheme ++ ':' :: rest := by
    rw [String.toList_append, String.toList_append, horigin]
    simp [rest, front]
  have hfront : ∀ c ∈ front, 0x20 < c.toNat ∧ c ≠ '?' ∧ c ≠ '#' :=
    fun c hc => isPathPart_iff.1 (isPathPart_of_mem_front hauthority hpathChars c hc)
  have hrest : ∀ c ∈ rest, 0x20 < c.toNat ∧ c ≠ '#' := by
    intro c hc
    rcases List.mem_append.1 hc with hc | hc
    · exact ⟨(hfront c hc).1, (hfront c hc).2.2⟩
    · exact isQueryPart_iff.1 (isQueryPart_of_mem_marked hquery c hc)
  have hvisible : ∀ c ∈ scheme ++ ':' :: rest, 0x20 < c.toNat := by
    intro c hc
    rcases List.mem_append.1 hc with hc | hc
    · exact visible_of_isAlpha (hscheme.isAlpha c hc)
    · rcases List.mem_cons.1 hc with rfl | hc
      · decide
      · exact (hrest c hc).1
  obtain ⟨name, hname, hread⟩ := hscheme.scheme?_append rest
  -- nothing is cleaned away, the scheme is read off, and the query is cut off
  rw [parse, htext, cleaned_of_visible hvisible, hread] at h
  simp only [cut_of_free fun hc => (hrest _ hc).2 rfl, rest,
    cut_query fun hc => (hfront _ hc).2.1 rfl] at h
  have hspecial : isSpecial name = true ∧ name ≠ "file" := by
    rcases hname with rfl | rfl <;> decide
  rw [path_of_withRest hspecial.1 hspecial.2 h,
    dropWhile_authority hne (fun c hc => (isAuthorityPart_iff.1 (hauthority c hc)).2) hpath,
    hierarchical_eq hpath]

end Url
end Gatehouse
