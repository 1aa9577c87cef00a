import Gatehouse.Proofs.Url.Bases
import Gatehouse.Proofs.Url.Slashes

/-!
# Any path behind a base URL

A plain path behind the text of a URL is found there as it was.  Any other path is read: its pieces
are walked through behind the segments that the text comes to, so its steps may lead out of them.
But only the path of what is read depends on it, and nothing else.

* `exists_front` — the scheme and the server of a text without marks stand in front of the slashes
  at its end.
* `parse_behind` — what is read of a text, a path and a query.
-/

set_option autoImplicit false

namespace Gatehouse
namespace Url

variable {text path : String} {base : Url}

/-- The path of a URL for a path behind some segments. -/
def pathBehind (base : List (List Char)) (path : String) : Path :=
  .segments ((readBehind base path.toList).map writeSegment)

theorem serverPart_append_ne_nil {cs : List Char} (h : serverPart cs ≠ []) (more : List Char) :
    serverPart (cs ++ more) ≠ [] := by
  by_cases hpath : pathPart cs = []
  · rw [(parts_append_of_no_path h hpath more).1]
    exact List.append_ne_nil_of_left_ne_nil h _
  · rwa [(parts_append_of_pathPart h hpath more).1]

/-- The scheme and the server of a text without marks stand in front of the slashes at its end, and
the segments that it comes to are behind them. -/
theorem exists_front (hparse : parse text = .ok base) (hweb : IsWeb base.scheme)
    (hmark : '?' ∉ text.toList) (hhash : '#' ∉ text.toList) :
    ∃ scheme rest, leading (Gatehouse.Path.trimEnd text.toList) = scheme ++ ':' :: rest ∧
      (∀ more, scheme? (scheme ++ ':' :: more) = some (base.scheme, more)) ∧
      serverPart rest ≠ [] ∧ baseFolders text.toList = folders (pathPart rest) := by
  obtain ⟨slashes, htext, hslashes⟩ := exists_slashes text.toList
  obtain ⟨scheme, read, hcleaned, hscheme, hrest⟩ := exists_of_parse hparse hmark hhash
  -- what is dropped behind the text may stand in front of a path, so it is put back first
  let blanks := (leading text.toList).rtakeWhile isEdge
  have hleading : leading (Gatehouse.Path.trimEnd text.toList) ++ slashes =
      scheme ++ ':' :: (read ++ blanks) := by
    rw [← leading_append_slashes _ hslashes, ← htext, ← List.cons_append, ← List.append_assoc,
      ← hcleaned, cleaned_eq_rdropWhile]
    exact List.rdropWhile_append_rtakeWhile.symm
  obtain ⟨rest, hfront, hmore⟩ := exists_rest_of_append_slashes hslashes hleading
  have hbare : IsWeb (bare base.scheme).scheme := hweb
  have hserver : serverPart (rest ++ slashes) ≠ [] := by
    rw [← hmore]
    exact serverPart_append_ne_nil (serverPart_ne_nil hbare hrest) blanks
  refine ⟨scheme, rest, hfront, hscheme, serverPart_ne_nil_of_append hslashes hserver, ?_⟩
  rw [baseFolders, hfront, hscheme]

/-- What is known of a URL before its server and its path are read. -/
def started (scheme : String) (query : Option String) : Url :=
  { bare scheme with
    query := query.map fun q => String.ofList (Percent.encode (inQueryOf scheme) q.toList) }

/-- A path and a query behind a text are read behind its scheme. -/
theorem parse_append_eq {scheme rest : List Char} {name : String} {query : Option String}
    (hhash : '#' ∉ text.toList) (hmark : '?' ∉ text.toList)
    (hfront : leading (Gatehouse.Path.trimEnd text.toList) = scheme ++ ':' :: rest)
    (hscheme : ∀ more, scheme? (scheme ++ ':' :: more) = some (name, more))
    (hhead : path.toList.head? = some '/') (hpath : ∀ c ∈ path.toList, isPathPart c = true)
    (hquery : ∀ q, query = some q → ∀ c ∈ q.toList, isQueryPart c = true) :
    parse (trimmed text ++ path ++ marked "?" query) =
      (started name query).withRest (rest ++ path.toList) := by
  obtain ⟨tail, htail⟩ := List.head?_eq_some_iff.1 hhead
  have hbehind : ∀ c ∈ path.toList ++ (marked "?" query).toList, 0x20 < c.toNat ∧ c ≠ '#' := by
    intro c hc
    rcases List.mem_append.1 hc with hc | hc
    · exact ⟨(isPathPart_iff.1 (hpath c hc)).1, (isPathPart_iff.1 (hpath c hc)).2.2⟩
    · exact isQueryPart_iff.1 (isQueryPart_of_mem_marked hquery c hc)
  have hread : cleaned (trimmed text ++ path ++ marked "?" query).toList =
      scheme ++ ':' :: (rest ++ path.toList ++ (marked "?" query).toList) := by
    rw [String.toList_append, toList_append_plain, List.append_assoc]
    rw [htail, List.cons_append] at hbehind ⊢
    rw [cleaned_append_cons (by decide), hfront,
      ending_of_visible fun c hc => (hbehind c (List.mem_cons_of_mem _ hc)).1]
    simp
  have hrest : ∀ c ∈ rest, c ∈ text.toList := by
    intro c hc
    refine mem_of_mem_trimEnd (mem_of_mem_leading ?_)
    rw [hfront]
    exact List.mem_append_right _ (List.mem_cons_of_mem ':' hc)
  have hnohash : '#' ∉ rest ++ path.toList ++ (marked "?" query).toList := by
    rw [List.append_assoc]
    intro hc
    rcases List.mem_append.1 hc with hc | hc
    · exact hhash (hrest _ hc)
    · exact (hbehind _ hc).2 rfl
  have hnomark : '?' ∉ rest ++ path.toList := by
    intro hc
    rcases List.mem_append.1 hc with hc | hc
    · exact hmark (hrest _ hc)
    · exact (isPathPart_iff.1 (hpath _ hc)).2.1 rfl
  rw [parse, hread, hscheme]
  simp only [cut_of_free hnohash, cut_query hnomark]
  rw [started, Option.map_map]
  rfl

/-- **Behind a text that is read as a URL of the web, without marks, only the path of what is read
depends on the path that is put there:** it is read behind the segments that the text comes to. -/
theorem parse_behind (hparse : parse text = .ok base) (hweb : IsWeb base.scheme)
    (hmark : '?' ∉ text.toList) (hhash : '#' ∉ text.toList) {query : Option String} {url : Url}
    (hhead : path.toList.head? = some '/') (hpath : ∀ c ∈ path.toList, isPathPart c = true)
    (hquery : ∀ q, query = some q → ∀ c ∈ q.toList, isQueryPart c = true)
    (h : parse (trimmed text ++ path ++ marked "?" query) = .ok url) :
    url.path = pathBehind (baseFolders text.toList) path ∧
      ∀ other : String, other.toList.head? = some '/' →
        (∀ c ∈ other.toList, isPathPart c = true) →
        parse (trimmed text ++ other ++ marked "?" query) =
          .ok { url with path := pathBehind (baseFolders text.toList) other } := by
  obtain ⟨scheme, rest, hfront, hscheme, hserver, hfolders⟩ := exists_front hparse hweb hmark hhash
  rw [parse_append_eq hhash hmark hfront hscheme hhead hpath hquery] at h
  -- the path behind the server starts with the one of the text
  have hread : ∀ other : String, other.toList.head? = some '/' →
      serverPart (rest ++ other.toList) = serverPart rest ∧
        hierarchical true (pathPart (rest ++ other.toList)) =
          pathBehind (baseFolders text.toList) other := by
    intro other hother
    obtain ⟨tail, htail⟩ := List.head?_eq_some_iff.1 hother
    have hpart : IsPathPart other.toList := by
      intro c hc
      rw [hother] at hc
      rw [← Option.some.inj hc]
      rfl
    obtain ⟨hsame, hbehind⟩ := parts_append hserver hpart
    refine ⟨hsame, ?_⟩
    rw [hbehind, pathBehind, htail, hierarchical_append_cons (isPathPart_pathPart rest), hfolders]
  have hstarted : IsWeb (started base.scheme query).scheme := hweb
  refine ⟨?_, fun other hother hchars => ?_⟩
  · rw [(withRest_of_serverPart hstarted h rfl).1, (hread path hhead).2]
  · obtain ⟨hserver', hpath'⟩ := hread other hother
    rw [parse_append_eq hhash hmark hfront hscheme hother hchars hquery,
      (withRest_of_serverPart hstarted h (hserver'.trans (hread path hhead).1.symm)).2, hpath']

end Url
end Gatehouse
