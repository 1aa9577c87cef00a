import Mathlib.Data.List.TakeWhile
import Gatehouse.Request

/-!
# The characters of a request target

Not every character can stand in the path of a request target or in its query, and a target with
another character is refused.  A path and a query of such characters are read as what they are.

* `Uri.isClean_of_parse` — the characters of a target that was read.
* `Uri.path_of_parse` — how the path of a target that was read starts.
* `Uri.parse_append` — a path and a query are read again.
* `Request.isPathChar_of_mem` — the same for the path in normal form that the stages see.
-/

set_option autoImplicit false

namespace Gatehouse

/-- A chain that succeeds has succeeded at its first step. -/
theorem exists_of_bind_eq_ok {ε α β : Type} {first : Except ε α} {f : α → Except ε β} {b : β}
    (h : first >>= f = .ok b) : ∃ a, first = .ok a ∧ f a = .ok b := by
  cases first with
  | error e => cases h
  | ok a => exact ⟨a, rfl, h⟩

namespace Http
namespace Uri

/-- Every character of the path may stand in a path, and every character of the query in a query. -/
structure IsClean (uri : Uri) : Prop where
  path : ∀ c ∈ uri.path.toList, isPathChar c = true
  query : ∀ q, uri.query = some q → ∀ c ∈ q.toList, isQueryChar c = true

theorem splitPath_clean {cs path : List Char} {query : Option (List Char)}
    (h : splitPath cs = .ok (path, query)) :
    (∀ c ∈ path, isPathChar c = true) ∧ ∀ q, query = some q → ∀ c ∈ q, isQueryChar c = true := by
  simp only [splitPath] at h
  split at h
  · cases h
  · next hpath =>
    rw [Bool.not_eq_true, Bool.not_eq_false', List.all_eq_true] at hpath
    split at h
    · split at h
      · next hquery =>
        cases h
        refine ⟨hpath, fun q hq => ?_⟩
        cases hq
        exact List.all_eq_true.1 hquery
      · cases h
    · cases h
      exact ⟨hpath, fun q hq => by cases hq⟩

theorem isClean_of_splitPath (scheme authority : Option String) {cs path : List Char}
    {query : Option (List Char)} (h : splitPath cs = .ok (path, query)) :
    IsClean ⟨scheme, authority, String.ofList path, query.map String.ofList⟩ where
  path c hc := (splitPath_clean h).1 c (by rwa [String.toList_ofList] at hc)
  query q hq c hc := by
    obtain ⟨q, rfl, rfl⟩ := Option.map_eq_some_iff.1 hq
    exact (splitPath_clean h).2 q rfl c (by rwa [String.toList_ofList] at hc)

theorem isClean_of_ofAuthority {cs : List Char} {trailing : UriError} {uri : Uri}
    (h : ofAuthority cs trailing = .ok uri) : uri.IsClean := by
  obtain ⟨⟨authority, rest⟩, -, h⟩ := exists_of_bind_eq_ok h
  dsimp only at h
  split at h
  · cases h
    exact ⟨by simp, by simp⟩
  · cases h

theorem isClean_of_ofRest {scheme cs : List Char} {uri : Uri} (h : ofRest scheme cs = .ok uri) :
    uri.IsClean := by
  obtain ⟨⟨authority, rest⟩, -, h⟩ := exists_of_bind_eq_ok h
  dsimp only at h
  split at h
  · cases h
  · obtain ⟨⟨path, query⟩, hsplit, h⟩ := exists_of_bind_eq_ok h
    cases h
    have hclean := isClean_of_splitPath none none hsplit
    refine ⟨fun c hc => ?_, hclean.query⟩
    dsimp only at hc
    rw [String.toList_ofList] at hc
    split at hc
    · rw [List.mem_singleton.1 hc]
      decide
    · exact (splitPath_clean hsplit).1 c hc

/-- What a target can be that was read: a path with its query if it starts with a slash, and
otherwise an asterisk, an authority alone, or what stands behind a scheme. -/
inductive IsReadAs (cs : List Char) : Uri → Prop
  | path {path : List Char} {query : Option (List Char)} (h : splitPath cs = .ok (path, query))
      (hhead : cs.head? = some '/') :
      IsReadAs cs ⟨none, none, String.ofList path, query.map String.ofList⟩
  | asterisk (hhead : cs.head? ≠ some '/') : IsReadAs cs ⟨none, none, "*", none⟩
  | authority {trailing : UriError} {uri : Uri} (h : ofAuthority cs trailing = .ok uri)
      (hhead : cs.head? ≠ some '/') : IsReadAs cs uri
  | rest {scheme behind : List Char} {uri : Uri} (h : ofRest scheme behind = .ok uri)
      (hhead : cs.head? ≠ some '/') : IsReadAs cs uri

theorem isReadAs_of_parse {text : String} {uri : Uri} (h : parse text = .ok uri) :
    IsReadAs text.toList uri := by
  unfold parse at h
  dsimp only at h
  split at h
  · cases h
  · generalize text.toList = cs at h ⊢
    split at h
    · cases h
    · obtain ⟨⟨path, query⟩, hsplit, h⟩ := exists_of_bind_eq_ok h
      cases h
      exact .path hsplit rfl
    · cases h
      exact .asterisk (by decide)
    · next c hslash _ => exact .authority h fun hhead => hslash (by simpa using hhead)
    · next hslash _ _ =>
      have hhead : cs.head? ≠ some '/' := fun hhead => by
        obtain ⟨rest, hrest⟩ := List.head?_eq_some_iff.1 hhead
        exact hslash rest hrest
      obtain ⟨parts, -, h⟩ := exists_of_bind_eq_ok h
      split at h
      · exact .rest h hhead
      · exact .authority h hhead

/-- **A target that was read has only characters that may stand where they do.** -/
theorem isClean_of_parse {text : String} {uri : Uri} (h : parse text = .ok uri) : uri.IsClean := by
  cases isReadAs_of_parse h with
  | path hsplit => exact isClean_of_splitPath none none hsplit
  | asterisk => exact ⟨List.all_eq_true.1 (by decide), by simp⟩
  | authority hread => exact isClean_of_ofAuthority hread
  | rest hread => exact isClean_of_ofRest hread

/-! ## The start of the path -/

theorem head?_takeWhile {cs : List Char} {p : Char → Bool} (hhead : cs.head? = some '/')
    (hslash : p '/' = true) : (cs.takeWhile p).head? = some '/' := by
  obtain ⟨rest, rfl⟩ := List.head?_eq_some_iff.1 hhead
  rw [List.takeWhile_cons_of_pos hslash]
  rfl

theorem eq_takeWhile_of_splitPath {cs path : List Char} {query : Option (List Char)}
    (h : splitPath cs = .ok (path, query)) : path = cs.takeWhile fun c => !endsPath c := by
  simp only [splitPath] at h
  split at h
  · cases h
  · split at h
    · split at h
      · cases h
        rfl
      · cases h
    · cases h
      rfl

theorem path_of_ofAuthority {cs : List Char} {trailing : UriError} {uri : Uri}
    (h : ofAuthority cs trailing = .ok uri) : uri.path = "" := by
  obtain ⟨⟨authority, rest⟩, -, h⟩ := exists_of_bind_eq_ok h
  dsimp only at h
  split at h
  · cases h
    rfl
  · cases h

/-- What follows an authority starts with a character that ends one. -/
theorem endsAuthority_of_splitAuthority {cs authority rest : List Char}
    (h : splitAuthority cs = .ok (authority, rest)) :
    ∀ c ∈ rest.head?, endsAuthority c = true := by
  unfold splitAuthority at h
  dsimp only at h
  split at h
  · cases h
  · obtain ⟨seen, -, h⟩ := exists_of_bind_eq_ok h
    split at h
    · cases h
      intro c hc
      have hstop := List.head?_dropWhile_not (fun c => !endsAuthority c) cs
      rw [Option.mem_def.1 hc] at hstop
      simpa using hstop
    · cases h

theorem head?_of_ofRest {scheme cs : List Char} {uri : Uri} (h : ofRest scheme cs = .ok uri) :
    uri.path.toList.head? = some '/' := by
  obtain ⟨⟨authority, rest⟩, hauthority, h⟩ := exists_of_bind_eq_ok h
  dsimp only at h
  split at h
  · cases h
  · obtain ⟨⟨path, query⟩, hsplit, h⟩ := exists_of_bind_eq_ok h
    cases h
    have hpath := eq_takeWhile_of_splitPath hsplit
    have hends := endsAuthority_of_splitAuthority hauthority
    dsimp only
    rw [String.toList_ofList]
    cases rest with
    | nil =>
      rw [hpath]
      rfl
    | cons c rest =>
      have hc := hends c rfl
      simp only [endsAuthority, Bool.or_eq_true, beq_iff_eq] at hc
      split
      · rfl
      · next hne =>
        rcases hc with (rfl | rfl) | rfl
        · rw [hpath]
          exact head?_takeWhile rfl (by decide)
        · exact absurd (by rw [hpath]; rfl) hne
        · exact absurd (by rw [hpath]; rfl) hne

/-- **A path that was read starts with a slash,** unless the target is an authority alone or an
asterisk. -/
theorem path_of_parse {text : String} {uri : Uri} (h : parse text = .ok uri) :
    uri.path.toList.head? = some '/' ∨ uri.path = "" ∨ uri.path = "*" := by
  cases isReadAs_of_parse h with
  | path hsplit hhead =>
    left
    rw [String.toList_ofList, eq_takeWhile_of_splitPath hsplit]
    exact head?_takeWhile hhead (by decide)
  | asterisk => exact Or.inr (Or.inr rfl)
  | authority hread => exact Or.inr (Or.inl (path_of_ofAuthority hread))
  | rest hread => exact Or.inl (head?_of_ofRest hread)

/-- A text without a query and a fragment that was read as a path has only characters of paths. -/
theorem isPathChar_of_parse {page : String} {uri : Uri} (hhead : page.toList.head? = some '/')
    (hquery : '?' ∉ page.toList) (hfragment : '#' ∉ page.toList) (h : parse page = .ok uri) :
    ∀ c ∈ page.toList, isPathChar c = true := by
  have hfree : ∀ c ∈ page.toList, (!endsPath c) = true := by
    intro c hc
    rw [Bool.not_eq_true', endsPath, Bool.or_eq_false_iff, beq_eq_false_iff_ne, beq_eq_false_iff_ne]
    exact ⟨fun heq => hquery (heq ▸ hc), fun heq => hfragment (heq ▸ hc)⟩
  cases isReadAs_of_parse h with
  | path hsplit =>
    rw [← List.takeWhile_eq_self_iff.2 hfree, ← eq_takeWhile_of_splitPath hsplit]
    exact (splitPath_clean hsplit).1
  | asterisk hother => exact absurd hhead hother
  | authority _ hother => exact absurd hhead hother
  | rest _ hother => exact absurd hhead hother

/-! ## Paths with a query -/

/-- A path is not ended by a character that may stand in it. -/
theorem not_endsPath_of_isPathChar {c : Char} (h : isPathChar c = true) : endsPath c = false := by
  refine Bool.eq_false_iff.2 fun hends => ?_
  rw [endsPath, Bool.or_eq_true, beq_iff_eq, beq_iff_eq] at hends
  rcases hends with rfl | rfl
  · revert h
    decide
  · revert h
    decide

theorem splitPath_append {path query : List Char} (hpath : ∀ c ∈ path, isPathChar c = true)
    (hquery : ∀ c ∈ query, isQueryChar c = true) :
    splitPath (path ++ '?' :: query) = .ok (path, some query) := by
  have hfront : ∀ c ∈ path, (!endsPath c) = true := fun c hc => by
    rw [not_endsPath_of_isPathChar (hpath c hc)]
    rfl
  have htake : (path ++ '?' :: query).takeWhile (fun c => !endsPath c) = path := by
    rw [List.takeWhile_append_of_pos hfront, List.takeWhile_cons_of_neg (by decide),
      List.append_nil]
  have hdrop : (path ++ '?' :: query).dropWhile (fun c => !endsPath c) = '?' :: query := by
    rw [List.dropWhile_append_of_pos hfront, List.dropWhile_cons_of_neg (by decide)]
  have hwhole : query.takeWhile (· != '#') = query := by
    refine List.takeWhile_eq_self_iff.2 fun c hc => bne_iff_ne.2 ?_
    rintro rfl
    have hhash := hquery '#' hc
    revert hhash
    decide
  simp only [splitPath, htake, hdrop, hwhole, List.all_eq_true.2 hpath, List.all_eq_true.2 hquery]
  rfl

/-- A page and a query are read as such if their characters may stand where they do. -/
theorem parse_append {page query : String} (hhead : page.toList.head? = some '/')
    (hpage : ∀ c ∈ page.toList, isPathChar c = true)
    (hquery : ∀ c ∈ query.toList, isQueryChar c = true)
    (hlength : (page ++ "?" ++ query).utf8ByteSize ≤ maxLength) :
    parse (page ++ "?" ++ query) = .ok ⟨none, none, page, some query⟩ := by
  obtain ⟨rest, hrest⟩ := List.head?_eq_some_iff.1 hhead
  have htext : (page ++ "?" ++ query).toList = '/' :: (rest ++ '?' :: query.toList) := by
    rw [String.toList_append, String.toList_append, hrest]
    simp
  have hsplit : splitPath ('/' :: (rest ++ '?' :: query.toList)) =
      .ok (page.toList, some query.toList) := by
    rw [← List.cons_append, ← hrest]
    exact splitPath_append hpage hquery
  have hshort : ¬ maxLength < (page ++ "?" ++ query).utf8ByteSize := Nat.not_lt_of_le hlength
  simp only [parse, if_neg hshort, htext, hsplit]
  show Except.ok (Uri.mk none none (String.ofList page.toList) _) = _
  rw [Option.map_some, String.ofList_toList, String.ofList_toList]

theorem length_le_of_parse {text : String} {uri : Uri} (h : parse text = .ok uri) :
    text.utf8ByteSize ≤ maxLength := by
  refine Nat.le_of_not_lt fun hlong => ?_
  rw [parse, if_pos hlong] at h
  cases h

end Uri
end Http

namespace Text

/-- The characters of a piece are characters of the text. -/
theorem mem_of_mem_pieces {α : Type} {isSep : α → Bool} {cs piece : List α} {c : α}
    (h : piece ∈ pieces isSep cs) (hc : c ∈ piece) : c ∈ cs := by
  induction cs generalizing piece with
  | nil =>
    rw [List.mem_singleton.1 h] at hc
    exact hc
  | cons d cs ih =>
    rw [pieces] at h
    split at h
    · rcases List.mem_cons.1 h with rfl | h
      · cases hc
      · exact List.mem_cons_of_mem d (ih h hc)
    · split at h
      · next hnil => exact absurd hnil (pieces_ne_nil isSep cs)
      · next p ps hpieces =>
        rcases List.mem_cons.1 h with rfl | h
        · rcases List.mem_cons.1 hc with rfl | hc
          · exact List.mem_cons_self
          · exact List.mem_cons_of_mem d (ih (hpieces ▸ List.mem_cons_self) hc)
        · exact List.mem_cons_of_mem d (ih (hpieces ▸ List.mem_cons_of_mem p h) hc)

end Text

/-- Putting a path in normal form brings no new characters but slashes. -/
theorem Path.mem_normalize {cs : List Char} {c : Char} (h : c ∈ normalize cs) :
    c = '/' ∨ c ∈ cs := by
  rw [normalize, ofSegments] at h
  split at h
  · exact Or.inl (List.mem_singleton.1 h)
  · obtain ⟨segment, hsegment, hc⟩ := List.mem_flatMap.1 h
    rcases List.mem_cons.1 hc with hc | hc
    · exact Or.inl hc
    · exact Or.inr (Text.mem_of_mem_pieces (List.mem_filter.1 hsegment).1 hc)

/-- The path of a request has only characters that may stand in a path. -/
theorem Request.isPathChar_of_mem {uri : Http.Uri} (h : uri.IsClean) (headers : Headers) {c : Char}
    (hc : c ∈ (ofUri uri headers).path.toList) : Http.Uri.isPathChar c = true := by
  have hnormal : c ∈ Path.normalize uri.path.toList := by
    rwa [ofUri, normalized, String.toList_ofList] at hc
  rcases Path.mem_normalize hnormal with rfl | hc
  · decide
  · exact h.path c hc

end Gatehouse
