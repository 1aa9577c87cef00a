import Gatehouse.Proofs.Url.Below
import Gatehouse.Proofs.Url.Servers

/-!
# Paths behind base URLs

The URL of another server is a text of its own, and is read as such.  To ask that server for a page,
the slashes at the end of the text are taken away, a path is put behind it, and the whole is read.
What is read is the page below the base, if the text lets it: a mark in the text swallows the path,
blanks at its end are not dropped any more, and an empty segment at its end comes back as a slash
too many.

* `IsBase` — the texts behind which paths can be put.
* `extends_iff` — if a text is read as a URL of the web, then paths can be put behind it just if it
  is one of them.
-/

set_option autoImplicit false

namespace Gatehouse
namespace Url

/-! ## Text in front of a slash -/

theorem filter_dropWhile_isEdge (cs : List Char) :
    (cs.dropWhile isEdge).filter (fun c => !isBreak c) =
      (cs.filter fun c => !isBreak c).dropWhile isEdge := by
  induction cs with
  | nil => rfl
  | cons c cs ih =>
    cases hedge : isEdge c with
    | true =>
      rw [List.dropWhile_cons_of_pos hedge, ih]
      cases hbreak : isBreak c with
      | true => rw [List.filter_cons_of_neg (by simp [hbreak])]
      | false => rw [List.filter_cons_of_pos (by simp [hbreak]), List.dropWhile_cons_of_pos hedge]
    | false =>
      have hne : ¬ isEdge c = true := by rw [hedge]; exact Bool.false_ne_true
      rw [List.dropWhile_cons_of_neg hne,
        List.filter_cons_of_pos (by simp [isBreak_of_visible hedge]),
        List.dropWhile_cons_of_neg hne]

/-- What is read of a text is what it leaves in front of other text, without the blanks and controls
at the end. -/
theorem cleaned_eq_rdropWhile (cs : List Char) : cleaned cs = (leading cs).rdropWhile isEdge := by
  rw [cleaned_eq, ending, List.filter_reverse, filter_dropWhile_isEdge, leading, List.rdropWhile,
    List.filter_reverse]

theorem leading_append_slashes (cs : List Char) {slashes : List Char}
    (h : ∀ c ∈ slashes, c = '/') : leading (cs ++ slashes) = leading cs ++ slashes := by
  cases slashes with
  | nil => rw [List.append_nil, List.append_nil]
  | cons c rest =>
    obtain rfl := h c List.mem_cons_self
    have hkept : ('/' :: rest).filter (fun c => !isBreak c) = '/' :: rest :=
      List.filter_eq_self.2 fun d hd => by rw [h d hd]; rfl
    rw [leading, dropWhile_append_cons (by decide), List.filter_append, hkept]
    rfl

theorem mem_leading {cs : List Char} {c : Char} (h : c ∈ cs) (hc : isEdge c = false) :
    c ∈ leading cs := by
  obtain ⟨front, behind, rfl⟩ := List.append_of_mem h
  rw [leading, dropWhile_append_cons hc, List.filter_append]
  refine List.mem_append_right _ (List.mem_filter.2 ⟨List.mem_cons_self, ?_⟩)
  rw [isBreak_of_visible hc]
  rfl

/-- A plain path behind a text is read behind what the text leaves. -/
theorem cleaned_append_plain (cs : List Char) {path : List Char} (h : IsPlainPath path) :
    cleaned (cs ++ path) = leading cs ++ path := by
  have hvisible : ∀ c ∈ path, 0x20 < c.toNat := fun c hc => (isPathPart_iff.1 (h.visible c hc)).1
  obtain ⟨rest, rfl, -⟩ := h.exists_rest
  rw [cleaned_append_cons (by decide),
    ending_of_visible fun c hc => hvisible c (List.mem_cons_of_mem '/' hc)]

/-! ## Servers and what is behind them -/

/-- The name of the server in what stands behind the scheme of a URL of the web. -/
def serverPart (cs : List Char) : List Char :=
  (cs.dropWhile (isSlash true)).takeWhile fun c => !isSlash true c

/-- What stands behind the name of the server. -/
def pathPart (cs : List Char) : List Char :=
  (cs.dropWhile (isSlash true)).dropWhile fun c => !isSlash true c

theorem isPathPart_pathPart (cs : List Char) : IsPathPart (pathPart cs) := by
  intro c hc
  have hstop := List.head?_dropWhile_not (fun c => !isSlash true c) (cs.dropWhile (isSlash true))
  rw [pathPart] at hc
  rw [hc] at hstop
  simpa using hstop

/-- What is put behind the name of a server is no slash in front of it. -/
theorem dropWhile_append_of_serverPart {cs : List Char} (h : serverPart cs ≠ [])
    (more : List Char) :
    (cs ++ more).dropWhile (isSlash true) = cs.dropWhile (isSlash true) ++ more := by
  have hne : cs.dropWhile (isSlash true) ≠ [] := fun hnil => h (by rw [serverPart, hnil]; rfl)
  rw [List.dropWhile_append, if_neg (by rwa [List.isEmpty_iff])]

theorem parts_append_of_pathPart {cs : List Char} (h : serverPart cs ≠ [])
    (hpath : pathPart cs ≠ []) (more : List Char) :
    serverPart (cs ++ more) = serverPart cs ∧ pathPart (cs ++ more) = pathPart cs ++ more := by
  rw [serverPart, pathPart, dropWhile_append_of_serverPart h, List.dropWhile_append,
    if_neg (by rwa [List.isEmpty_iff]), List.takeWhile_append, if_neg]
  · exact ⟨rfl, rfl⟩
  · intro hlength
    refine hpath (List.eq_nil_of_length_eq_zero ?_)
    have hsplit := congrArg List.length
      (List.takeWhile_append_dropWhile (p := fun c => !isSlash true c)
        (l := cs.dropWhile (isSlash true)))
    rw [List.length_append] at hsplit
    show ((cs.dropWhile (isSlash true)).dropWhile fun c => !isSlash true c).length = 0
    omega

theorem parts_append_of_no_path {cs : List Char} (h : serverPart cs ≠ [])
    (hpath : pathPart cs = []) (more : List Char) :
    serverPart (cs ++ more) = serverPart cs ++ more.takeWhile (fun c => !isSlash true c) ∧
      pathPart (cs ++ more) = more.dropWhile fun c => !isSlash true c := by
  have hall : ∀ c ∈ cs.dropWhile (isSlash true), (!isSlash true c) = true :=
    List.dropWhile_eq_nil_iff.1 hpath
  have hserver : serverPart cs = cs.dropWhile (isSlash true) := by
    rw [serverPart, List.takeWhile_eq_self_iff.2 hall]
  rw [hserver, serverPart, pathPart, dropWhile_append_of_serverPart h,
    List.takeWhile_append_of_pos hall, List.dropWhile_append_of_pos hall]
  exact ⟨rfl, rfl⟩

/-- What starts with a slash is put behind the name of a server as it is. -/
theorem parts_append {cs more : List Char} (h : serverPart cs ≠ []) (hmore : IsPathPart more) :
    serverPart (cs ++ more) = serverPart cs ∧ pathPart (cs ++ more) = pathPart cs ++ more := by
  by_cases hpath : pathPart cs = []
  · obtain ⟨hserver, hbehind⟩ := parts_append_of_no_path h hpath more
    rw [hserver, hbehind, hpath]
    cases more with
    | nil => exact ⟨List.append_nil _, rfl⟩
    | cons c more =>
      have hc : isSlash true c = true := hmore c rfl
      rw [List.takeWhile_cons_of_neg (by simp [hc]), List.dropWhile_cons_of_neg (by simp [hc])]
      exact ⟨List.append_nil _, rfl⟩
  · exact parts_append_of_pathPart h hpath more

/-- Slashes do not name a server. -/
theorem serverPart_ne_nil_of_append {cs slashes : List Char} (hslashes : ∀ c ∈ slashes, c = '/')
    (h : serverPart (cs ++ slashes) ≠ []) : serverPart cs ≠ [] := by
  intro hnil
  have hall : ∀ c ∈ cs, isSlash true c = true := by
    rw [← List.dropWhile_eq_nil_iff]
    cases hdrop : cs.dropWhile (isSlash true) with
    | nil => rfl
    | cons c tail =>
      have hstop := List.head?_dropWhile_not (isSlash true) cs
      rw [hdrop] at hstop
      rw [serverPart, hdrop, List.takeWhile_cons_of_pos (by simpa using hstop)] at hnil
      cases hnil
  have hnone : (cs ++ slashes).dropWhile (isSlash true) = [] := by
    refine List.dropWhile_eq_nil_iff.2 fun c hc => ?_
    rcases List.mem_append.1 hc with hc | hc
    · exact hall c hc
    · rw [hslashes c hc]
      rfl
  rw [serverPart, hnone] at h
  exact h rfl

/-! ## Reading -/

/-- The schemes of the web. -/
def IsWeb (scheme : String) : Prop :=
  scheme = "http" ∨ scheme = "https"

theorem IsWeb.isSpecial {scheme : String} (h : IsWeb scheme) : isSpecial scheme = true := by
  rcases h with rfl | rfl <;> decide

theorem IsWeb.ne_file {scheme : String} (h : IsWeb scheme) : scheme ≠ "file" := by
  rcases h with rfl | rfl <;> decide

/-- A URL of which nothing is known but the scheme. -/
def bare (scheme : String) : Url where
  scheme
  path := .segments []

theorem withRest_of_web {url : Url} (hweb : IsWeb url.scheme) (cs : List Char) :
    url.withRest cs =
      (url.withAuthority (serverPart cs)
        (url.query.isSome || url.fragment.isSome || !(pathPart cs).isEmpty)).map fun named =>
          { named with path := hierarchical true (pathPart cs) } := by
  simp only [withRest, if_neg hweb.ne_file, hweb.isSpecial, if_true, pathPart, serverPart]
  cases url.withAuthority _ _ with
  | error error | ok named => rfl

/-- Whatever is read of a URL of the web has the server that its name stands for. -/
theorem exists_of_withRest {url read : Url} {cs : List Char} (hweb : IsWeb url.scheme)
    (h : url.withRest cs = .ok read) :
    ∃ followed named, url.withAuthority (serverPart cs) followed = .ok named ∧
      read = { named with path := hierarchical true (pathPart cs) } := by
  rw [withRest_of_web hweb] at h
  cases hnamed : url.withAuthority (serverPart cs)
      (url.query.isSome || url.fragment.isSome || !(pathPart cs).isEmpty) with
  | error error =>
    rw [hnamed] at h
    cases h
  | ok named =>
    rw [hnamed] at h
    exact ⟨_, named, hnamed, (Except.ok.inj h).symm⟩

/-- A URL of the web names a server. -/
theorem serverPart_ne_nil {url read : Url} {cs : List Char} (hweb : IsWeb url.scheme)
    (h : url.withRest cs = .ok read) : serverPart cs ≠ [] := by
  obtain ⟨followed, named, hnamed, -⟩ := exists_of_withRest hweb h
  obtain ⟨host, port, hne, -⟩ := exists_of_withAuthority hweb.isSpecial hnamed
  intro hnil
  rw [hnil] at hne
  exact hne rfl

/-- Where the server is the same, only the path is another. -/
theorem withRest_of_serverPart {url read : Url} {cs more : List Char} (hweb : IsWeb url.scheme)
    (h : url.withRest cs = .ok read) (hserver : serverPart more = serverPart cs) :
    read.path = hierarchical true (pathPart cs) ∧
      url.withRest more = .ok { read with path := hierarchical true (pathPart more) } := by
  obtain ⟨followed, named, hnamed, rfl⟩ := exists_of_withRest hweb h
  obtain ⟨host, port, hne, hhost, hport, rfl⟩ := exists_of_withAuthority hweb.isSpecial hnamed
  refine ⟨rfl, ?_⟩
  rw [withRest_of_web hweb, hserver, withAuthority_of_exists hweb.isSpecial hne hhost hport]
  rfl

/-- A text without marks is read as a scheme and the rest. -/
theorem parse_of_scheme? {text name : String} {rest : List Char}
    (hscheme : scheme? (cleaned text.toList) = some (name, rest)) (hmark : '?' ∉ rest)
    (hhash : '#' ∉ rest) : parse text = (bare name).withRest rest := by
  rw [parse, hscheme]
  simp only [cut_of_free hhash, cut_of_free hmark]
  rfl

/-- What a text without marks is that is read as a URL of the web. -/
theorem exists_of_parse {text : String} {url : Url} (h : parse text = .ok url)
    (hmark : '?' ∉ text.toList) (hhash : '#' ∉ text.toList) :
    ∃ scheme rest, cleaned text.toList = scheme ++ ':' :: rest ∧
      (∀ more, scheme? (scheme ++ ':' :: more) = some (url.scheme, more)) ∧
      (bare url.scheme).withRest rest = .ok url := by
  cases hscheme : scheme? (cleaned text.toList) with
  | none =>
    rw [parse, hscheme] at h
    cases h
  | some parts =>
    obtain ⟨name, rest⟩ := parts
    obtain ⟨scheme, hcleaned, -, hread⟩ := exists_of_scheme? hscheme
    have hfree : ∀ mark ∉ text.toList, mark ∉ rest := by
      intro mark hmark hmem
      refine hmark (mem_of_mem_cleaned ?_)
      rw [hcleaned]
      exact List.mem_append_right _ (List.mem_cons_of_mem ':' hmem)
    rw [parse_of_scheme? hscheme (hfree '?' hmark) (hfree '#' hhash)] at h
    have hname : url.scheme = name := (keeps_of_withRest h).scheme
    rw [hname]
    exact ⟨scheme, rest, hcleaned, hread, h⟩

/-! ## Bases -/

/-- What a base URL comes to as a path: the segments behind the name of the server, when the slashes
at the end of the text have been taken away. -/
def baseFolders (text : List Char) : List (List Char) :=
  match scheme? (leading (Gatehouse.Path.trimEnd text)) with
  | some (_, rest) => folders (pathPart rest)
  | none => []

/-- The texts behind which paths can be put: they have no mark, no blank or control at their end
(line breaks and tabs apart, which are dropped anyway), and what they come to does not end in an
empty segment. -/
structure IsBase (text : List Char) : Prop where
  no_query : '?' ∉ text
  no_fragment : '#' ∉ text
  no_blank : (leading text).rdropWhile isEdge = leading text
  no_empty : (baseFolders text).getLast? ≠ some []

instance (text : List Char) : Decidable (IsBase text) :=
  decidable_of_iff ('?' ∉ text ∧ '#' ∉ text ∧ (leading text).rdropWhile isEdge = leading text ∧
      (baseFolders text).getLast? ≠ some [])
    ⟨fun h => ⟨h.1, h.2.1, h.2.2.1, h.2.2.2⟩,
      fun h => ⟨h.no_query, h.no_fragment, h.no_blank, h.no_empty⟩⟩

/-- A URL for a path below a base: on the same server, and with the path behind that of the base. -/
structure IsBelow (url base : Url) (path : List Char) : Prop where
  scheme : url.scheme = base.scheme
  host : url.host = base.host
  port : url.port = base.port
  query : url.query = none
  fragment : url.fragment = none
  path : url.path.render.toList =
    Gatehouse.Path.trimEnd base.path.render.toList ++ path

/-- Whether a text is read as the URL for a path below a base. -/
def ReadsBelow (text : String) (base : Url) (path : List Char) : Prop :=
  ∃ url, parse text = .ok url ∧ IsBelow url base path

variable {text path : String} {base : Url}

/-- A text in front of a path, without the slashes at its end. -/
def trimmed (text : String) : String :=
  String.ofList (Gatehouse.Path.trimEnd text.toList)

theorem exists_slashes (cs : List Char) :
    ∃ slashes, cs = Gatehouse.Path.trimEnd cs ++ slashes ∧ ∀ c ∈ slashes, c = '/' :=
  ⟨cs.rtakeWhile (· == '/'),
    (List.rdropWhile_append_rtakeWhile (p := (· == '/')) (l := cs)).symm,
    fun _ hc => beq_iff_eq.1 (List.mem_rtakeWhile_imp (p := (· == '/')) hc)⟩

theorem mem_of_mem_trimEnd {cs : List Char} {c : Char} (h : c ∈ Gatehouse.Path.trimEnd cs) :
    c ∈ cs := by
  obtain ⟨slashes, hcs, -⟩ := exists_slashes cs
  rw [hcs]
  exact List.mem_append_left slashes h

/-- The slashes at the end of a text stand behind its scheme. -/
theorem exists_rest_of_append_slashes {front scheme rest slashes : List Char}
    (hslashes : ∀ c ∈ slashes, c = '/') (h : front ++ slashes = scheme ++ ':' :: rest) :
    ∃ more, front = scheme ++ ':' :: more ∧ rest = more ++ slashes := by
  rw [← List.singleton_append, ← List.append_assoc] at h
  rcases List.append_eq_append_iff.1 h with ⟨more, hfront, hrest⟩ | ⟨more, hfront, hrest⟩
  · rcases List.eq_nil_or_concat' more with rfl | ⟨init, c, rfl⟩
    · rw [List.append_nil] at hfront
      exact ⟨[], hfront.symm, by rw [List.nil_append] at hrest ⊢; exact hrest.symm⟩
    · rw [← List.append_assoc] at hfront
      obtain ⟨-, hc⟩ := List.append_inj' hfront rfl
      cases hc
      exact absurd (hslashes ':' (hrest ▸ List.mem_append_left _ List.mem_concat_self)) (by decide)
  · exact ⟨more, by rw [hfront, List.append_assoc, List.singleton_append], hrest⟩

theorem toList_append_plain (text path : String) :
    (trimmed text ++ path).toList = Gatehouse.Path.trimEnd text.toList ++ path.toList := by
  rw [String.toList_append, trimmed, String.toList_ofList]

/-- A plain path brings no marks with it. -/
theorem parse_append_plain {name : String} {rest : List Char} (hmark : '?' ∉ text.toList)
    (hhash : '#' ∉ text.toList) (hpath : IsPlainPath path.toList)
    (hscheme : scheme? (cleaned (trimmed text ++ path).toList) = some (name, rest)) :
    parse (trimmed text ++ path) = (bare name).withRest rest := by
  have hfree : ∀ mark ∉ text.toList, isPathPart mark = false → mark ∉ rest := by
    intro mark htext hno hmem
    obtain ⟨scheme, hcleaned, -, -⟩ := exists_of_scheme? hscheme
    have hin : mark ∈ (trimmed text ++ path).toList := by
      refine mem_of_mem_cleaned ?_
      rw [hcleaned]
      exact List.mem_append_right _ (List.mem_cons_of_mem ':' hmem)
    rw [toList_append_plain] at hin
    rcases List.mem_append.1 hin with hin | hin
    · exact htext (mem_of_mem_trimEnd hin)
    · rw [hpath.visible mark hin] at hno
      cases hno
  exact parse_of_scheme? hscheme (hfree '?' hmark (by decide)) (hfree '#' hhash (by decide))

/-- **Behind a text without marks and without blanks at its end a path is read as a path on the same
server,** behind the segments that the text comes to. -/
theorem exists_of_no_blank (hparse : parse text = .ok base) (hweb : IsWeb base.scheme)
    (hmark : '?' ∉ text.toList) (hhash : '#' ∉ text.toList)
    (hblank : (leading text.toList).rdropWhile isEdge = leading text.toList)
    (hpath : IsPlainPath path.toList) :
    ∃ url, parse (trimmed text ++ path) = .ok url ∧ url.scheme = base.scheme ∧
      url.host = base.host ∧ url.port = base.port ∧ url.query = none ∧ url.fragment = none ∧
      url.path.render.toList = spell (baseFolders text.toList) ++ path.toList ∧
      Gatehouse.Path.trimEnd base.path.render.toList =
        Gatehouse.Path.trimEnd (spell (baseFolders text.toList)) := by
  obtain ⟨slashes, htext, hslashes⟩ := exists_slashes text.toList
  obtain ⟨scheme, read, hcleaned, hscheme, hrest⟩ := exists_of_parse hparse hmark hhash
  have hleading := leading_append_slashes (Gatehouse.Path.trimEnd text.toList) hslashes
  rw [← htext] at hleading
  rw [cleaned_eq_rdropWhile, hblank, hleading] at hcleaned
  obtain ⟨rest, hfront, rfl⟩ := exists_rest_of_append_slashes hslashes hcleaned
  have hslashesPart : IsPathPart slashes := fun c hc =>
    by rw [hslashes c (List.mem_of_head? hc)]; rfl
  have hbare : IsWeb (bare base.scheme).scheme := hweb
  have hserver : serverPart rest ≠ [] :=
    serverPart_ne_nil_of_append hslashes (serverPart_ne_nil hbare hrest)
  obtain ⟨hsame, hbehind⟩ := parts_append hserver hslashesPart
  obtain ⟨hsame', hbehind'⟩ := parts_append hserver hpath.isPathPart
  obtain ⟨hbase, hjoined⟩ := withRest_of_serverPart hbare hrest (hsame'.trans hsame.symm)
  have hfolders : baseFolders text.toList = folders (pathPart rest) := by
    rw [baseFolders, hfront, hscheme]
  have hread : cleaned (trimmed text ++ path).toList = scheme ++ ':' :: (rest ++ path.toList) := by
    rw [toList_append_plain, cleaned_append_plain _ hpath, hfront, List.append_assoc,
      List.cons_append]
  have hparsed := parse_append_plain hmark hhash hpath (by rw [hread, hscheme])
  have hkeeps := keeps_of_withRest hrest
  refine ⟨_, hparsed.trans hjoined, rfl, rfl, rfl, hkeeps.query, hkeeps.fragment, ?_, ?_⟩
  · show (hierarchical true (pathPart (rest ++ path.toList))).render.toList = _
    rw [hbehind', render_append (isPathPart_pathPart rest) hpath, hfolders]
  · rw [hbase, hbehind, trimEnd_render (isPathPart_pathPart rest) hslashes, hfolders]

/-! ## Marks -/

/-- A mark in front of a path is still there when the whole is read. -/
theorem no_marks_of_parse {url : Url} (hpath : IsPlainPath path.toList)
    (h : parse (trimmed text ++ path) = .ok url) (hquery : url.query = none)
    (hfragment : url.fragment = none) : '?' ∉ text.toList ∧ '#' ∉ text.toList := by
  obtain ⟨hq, hf⟩ := parts_of_parse h
  rw [hquery, eq_comm, Option.map_eq_none_iff, queryOf] at hq
  rw [hfragment, eq_comm, Option.map_eq_none_iff, fragmentOf] at hf
  have hread := cleaned_append_plain (Gatehouse.Path.trimEnd text.toList) hpath
  rw [← toList_append_plain] at hread
  have hmem : ∀ mark ∈ text.toList, mark ≠ '/' → isEdge mark = false →
      mark ∈ cleaned (trimmed text ++ path).toList := by
    intro mark hmark hslash hedge
    rw [hread]
    exact List.mem_append_left _ (mem_leading (Gatehouse.Path.mem_trimEnd hmark hslash) hedge)
  generalize cleaned (trimmed text ++ path).toList = read at hmem hq hf
  have hhash := Text.free_of_cut_none hf
  rw [cut_of_free fun hin => Bool.false_ne_true (hhash '#' hin).symm] at hq
  have hmark := Text.free_of_cut_none hq
  refine ⟨fun hin => ?_, fun hin => ?_⟩
  · have hfree := hmark '?' (hmem '?' hin (by decide) (by decide))
    exact Bool.false_ne_true hfree.symm
  · have hfree := hhash '#' (hmem '#' hin (by decide) (by decide))
    exact Bool.false_ne_true hfree.symm

/-! ## Blanks at the end -/

theorem mem_dotted {cs : List Char} {c : Char} (hc : isEdge c = true) (h : c ∈ cs) :
    c ∈ dotted cs := by
  have hne : c ≠ '%' ∧ c ≠ '2' ∧ c ≠ 'e' ∧ c ≠ 'E' :=
    forall_isEdge (P := fun c => c ≠ '%' ∧ c ≠ '2' ∧ c ≠ 'e' ∧ c ≠ 'E') (by decide) hc
  fun_induction dotted cs with
  | case1 d cs hd ih =>
    simp only [List.mem_cons, hne.1, hne.2.1, false_or] at h
    have hd' : c ≠ d := by
      rintro rfl
      simp [hne.2.2] at hd
    exact List.mem_cons_of_mem _ (ih (h.resolve_left hd'))
  | case2 d cs hd ih => exact List.mem_cons_of_mem _ (ih ((List.mem_cons.1 h).resolve_left hne.1))
  | case3 d cs hd ih =>
    rcases List.mem_cons.1 h with rfl | h
    · exact List.mem_cons_self
    · exact List.mem_cons_of_mem _ (ih h)
  | case4 => exact h

/-- A piece with a blank in it is no step. -/
theorem isStep_of_mem {piece : List Char} {c : Char} (hc : isEdge c = true) (h : c ∈ piece) :
    isStep piece = false := by
  have hpoint : c ≠ '.' := forall_isEdge (P := fun c => c ≠ '.') (by decide) hc
  have hdotted := mem_dotted hc h
  rw [isStep, isUp, isHere, Bool.or_eq_false_iff, beq_eq_false_iff_ne, beq_eq_false_iff_ne]
  refine ⟨fun heq => ?_, fun heq => ?_⟩
  · rw [heq] at hdotted
    simp [hpoint] at hdotted
  · rw [heq] at hdotted
    simp [hpoint] at hdotted

theorem length_spell_dropLast (segments : List (List Char)) :
    (spell segments.dropLast).length ≤ (spell segments).length := by
  rcases List.eq_nil_or_concat' segments with rfl | ⟨init, s, rfl⟩
  · exact Nat.le_refl _
  · rw [List.dropLast_concat, spell_append, List.length_append]
    exact Nat.le_add_right _ _

/-- A last piece adds at most itself to what is written. -/
theorem length_spell_step (segments : List (List Char)) (piece : List Char) :
    (spell (step segments piece ++ trailing [piece])).length ≤
      (spell segments).length + 1 + (Percent.encode Percent.inPath piece).length := by
  have htrailing : trailing [piece] = if isStep piece then [[]] else [] := rfl
  have hdropped := length_spell_dropLast segments
  have hempty : (spell [[]]).length = 1 := by rw [spell_singleton, encode_nil]; rfl
  rw [htrailing, step, isStep]
  cases isUp piece with
  | true =>
    simp only [Bool.true_or, if_true, spell_append, List.length_append, hempty]
    omega
  | false =>
    cases isHere piece with
    | true =>
      simp only [Bool.or_true, Bool.false_eq_true, if_false, if_true, spell_append,
        List.length_append, hempty]
      omega
    | false =>
      simp only [Bool.or_false, Bool.false_eq_true, if_false, List.append_nil, spell_append,
        spell_singleton, List.length_append, List.length_cons]
      omega

/-- **Blanks at the end of a path make what is written longer** as soon as they are read. -/
theorem length_render_lt {path blanks : List Char} (hpath : IsPathPart path) (hne : path ≠ [])
    (hblanks : ∀ c ∈ blanks, isEdge c = true) (hsome : blanks ≠ []) :
    (hierarchical true path).render.toList.length < (spell (folders (path ++ blanks))).length := by
  obtain ⟨c, rest, rfl⟩ := List.exists_cons_of_ne_nil hne
  have hfree : ∀ d ∈ blanks, isSlash true d = false := fun d hd =>
    forall_isEdge (P := fun d => isSlash true d = false) (by decide) (hblanks d hd)
  obtain ⟨init, last, hpieces, hjoined⟩ :=
    Text.exists_pieces_append rest (Text.pieces_of_free hfree)
  obtain ⟨blank, more, rfl⟩ := List.exists_cons_of_ne_nil hsome
  have hstep : isStep (last ++ blank :: more) = false :=
    isStep_of_mem (hblanks blank List.mem_cons_self) (List.mem_append_right _ List.mem_cons_self)
  have hrender : (hierarchical true (c :: rest)).render.toList =
      spell (step (resolve [] init) last ++ trailing [last]) := by
    have hwalk := walk_eq [] _ (Text.pieces_ne_nil (isSlash true) rest)
    rw [hierarchical, if_pos (hpath c rfl)]
    show (Path.segments (walk (List.map writeSegment []).reverse _)).render.toList = _
    rw [hwalk, render_eq_spell, hpieces, resolve_append,
      trailing_append init (List.cons_ne_nil last [])]
    rfl
  have hfolders : folders (c :: rest ++ blank :: more) =
      resolve [] init ++ [last ++ blank :: more] := by
    rw [List.cons_append, folders, hjoined, resolve_append]
    exact step_of_no_step hstep _
  have hlonger : (Percent.encode Percent.inPath last).length <
      (Percent.encode Percent.inPath (last ++ blank :: more)).length := by
    have hnonempty : 0 < (Percent.encode Percent.inPath (blank :: more)).length :=
      List.length_pos_iff.2 fun hnil => List.cons_ne_nil blank more (encode_eq_nil_iff.1 hnil)
    rw [encode_eq_flatMap, encode_eq_flatMap, List.flatMap_append, List.length_append,
      ← encode_eq_flatMap, ← encode_eq_flatMap]
    omega
  have hle := length_spell_step (resolve [] init) last
  rw [hrender, hfolders, spell_append (resolve [] init), spell_singleton, List.length_append,
    List.length_cons]
  omega

theorem length_trimEnd_le (cs : List Char) : (Gatehouse.Path.trimEnd cs).length ≤ cs.length := by
  rw [Gatehouse.Path.trimEnd_eq_rdropWhile]
  exact (List.rdropWhile_prefix _ cs).length_le

/-- Blanks at the end of the name of a server are part of it, and then it is no name. -/
theorem withRest_ne_ok_of_no_path {url : Url} {rest blanks more : List Char}
    (hweb : IsWeb url.scheme) (hserver : serverPart rest ≠ []) (hnone : pathPart rest = [])
    (hblanks : ∀ c ∈ blanks, isEdge c = true) (hsome : blanks ≠ []) (hmore : IsPathPart more)
    (read : Url) : url.withRest (rest ++ (blanks ++ more)) ≠ .ok read := by
  have hopen : ∀ c ∈ blanks, (!isSlash true c) = true := by
    intro c hc
    rw [forall_isEdge (P := fun c => isSlash true c = false) (by decide) (hblanks c hc)]
    rfl
  have hstop : more.takeWhile (fun c => !isSlash true c) = [] := by
    cases more with
    | nil => rfl
    | cons c more => exact List.takeWhile_cons_of_neg (by simp [hmore c rfl])
  obtain ⟨hsame, -⟩ := parts_append_of_no_path hserver hnone (blanks ++ more)
  rw [List.takeWhile_append_of_pos hopen, hstop, List.append_nil] at hsame
  obtain ⟨init, c, hconcat⟩ := (List.eq_nil_or_concat' blanks).resolve_left hsome
  have hc : isEdge c = true := hblanks c (by rw [hconcat]; exact List.mem_concat_self)
  intro hread
  obtain ⟨followed, named, hnamed, -⟩ := exists_of_withRest hweb hread
  rw [hsame, hconcat, ← List.append_assoc] at hnamed
  exact withAuthority_concat hc hweb.isSpecial _ followed named hnamed

/-- Blanks at the end of a path are in the way of another path behind. -/
theorem length_lt_of_withRest {url base read : Url} {rest blanks more : List Char}
    (hweb : IsWeb url.scheme) (hrest : url.withRest rest = .ok base) (hsome : pathPart rest ≠ [])
    (hblanks : ∀ c ∈ blanks, isEdge c = true) (hne : blanks ≠ []) (hmore : IsPlainPath more)
    (hread : url.withRest (rest ++ (blanks ++ more)) = .ok read) :
    base.path.render.toList.length + more.length < read.path.render.toList.length := by
  obtain ⟨hsame, hbehind⟩ :=
    parts_append_of_pathPart (serverPart_ne_nil hweb hrest) hsome (blanks ++ more)
  obtain ⟨hbase, hjoined⟩ := withRest_of_serverPart hweb hrest hsame
  have hpathPart : IsPathPart (pathPart rest ++ blanks) := by
    obtain ⟨d, ds, hd⟩ := List.exists_cons_of_ne_nil hsome
    intro c hc
    rw [hd, List.cons_append, List.head?_cons] at hc
    exact isPathPart_pathPart rest c (by rw [hd]; exact hc)
  have hrender : read.path.render.toList = spell (folders (pathPart rest ++ blanks)) ++ more := by
    rw [← Except.ok.inj (hjoined.symm.trans hread)]
    show (hierarchical true (pathPart (rest ++ (blanks ++ more)))).render.toList = _
    rw [hbehind, ← List.append_assoc, render_append hpathPart hmore]
  have hlonger := length_render_lt (isPathPart_pathPart rest) hsome hblanks hne
  rw [hrender, hbase, List.length_append]
  omega

/-- **Behind a text with blanks at its end no path is read as a path below it.** -/
theorem no_blank_of_below (hparse : parse text = .ok base) (hweb : IsWeb base.scheme)
    (hmark : '?' ∉ text.toList) (hhash : '#' ∉ text.toList) (hpath : IsPlainPath path.toList)
    {url : Url} (hread : parse (trimmed text ++ path) = .ok url)
    (hbelow : IsBelow url base path.toList) :
    (leading text.toList).rdropWhile isEdge = leading text.toList := by
  by_contra hne
  let blanks := (leading text.toList).rtakeWhile isEdge
  have hsplit : (leading text.toList).rdropWhile isEdge ++ blanks = leading text.toList :=
    List.rdropWhile_append_rtakeWhile
  have hblanks : ∀ c ∈ blanks, isEdge c = true := fun c hc => List.mem_rtakeWhile_imp hc
  have hsome : blanks ≠ [] :=
    fun hnil => hne (by rw [hnil, List.append_nil] at hsplit; exact hsplit)
  -- there are no slashes at the end of the text, as it ends with blanks
  obtain ⟨slashes, htext, hslashes⟩ := exists_slashes text.toList
  have hleading := leading_append_slashes (Gatehouse.Path.trimEnd text.toList) hslashes
  rw [← htext] at hleading
  obtain rfl : slashes = [] := by
    rcases List.eq_nil_or_concat' slashes with hnil | ⟨init, c, rfl⟩
    · exact hnil
    · obtain rfl := hslashes c List.mem_concat_self
      rw [hleading, ← List.append_assoc,
        List.rdropWhile_concat_neg isEdge _ '/' (by decide)] at hne
      exact absurd rfl hne
  rw [List.append_nil] at hleading
  obtain ⟨scheme, rest, hcleaned, hscheme, hrest⟩ := exists_of_parse hparse hmark hhash
  rw [cleaned_eq_rdropWhile] at hcleaned
  have hjoined : cleaned (trimmed text ++ path).toList =
      scheme ++ ':' :: (rest ++ (blanks ++ path.toList)) := by
    rw [toList_append_plain, cleaned_append_plain _ hpath, ← hleading, ← hsplit, hcleaned]
    simp only [List.append_assoc, List.cons_append]
  rw [parse_append_plain hmark hhash hpath (by rw [hjoined, hscheme])] at hread
  have hbare : IsWeb (bare base.scheme).scheme := hweb
  by_cases hnone : pathPart rest = []
  · -- the blanks are at the end of the name of the server
    exact withRest_ne_ok_of_no_path hbare (serverPart_ne_nil hbare hrest) hnone hblanks hsome
      hpath.isPathPart url hread
  · -- the blanks are at the end of the path
    have hlonger := length_lt_of_withRest hbare hrest hnone hblanks hsome hpath hread
    have htrimmed := length_trimEnd_le base.path.render.toList
    rw [hbelow.path, List.length_append] at hlonger
    omega

/-! ## The condition -/

/-- **A path behind a text is read as a path below it just if the text is a base.** -/
theorem extends_iff (hparse : parse text = .ok base) (hweb : IsWeb base.scheme)
    (hpath : IsPlainPath path.toList) :
    ReadsBelow (trimmed text ++ path) base path.toList ↔ IsBase text.toList := by
  have hslashes : ∀ s ∈ baseFolders text.toList, '/' ∉ s := by
    unfold baseFolders
    split
    · exact fun s hs => not_mem_of_mem_folders hs
    · exact fun s hs => absurd hs List.not_mem_nil
  constructor
  · rintro ⟨url, hread, hbelow⟩
    obtain ⟨hmark, hhash⟩ := no_marks_of_parse hpath hread hbelow.query hbelow.fragment
    have hblank := no_blank_of_below hparse hweb hmark hhash hpath hread hbelow
    refine ⟨hmark, hhash, hblank, (trimEnd_spell_iff hslashes).1 ?_⟩
    obtain ⟨url', hread', -, -, -, -, -, hrender, htrimmed⟩ :=
      exists_of_no_blank hparse hweb hmark hhash hblank hpath
    rw [hread] at hread'
    cases hread'
    have hsame := hrender.symm.trans hbelow.path
    rw [htrimmed] at hsame
    exact (List.append_cancel_right hsame).symm
  · intro hbase
    obtain ⟨url, hread, hscheme, hhost, hport, hquery, hfragment, hrender, htrimmed⟩ :=
      exists_of_no_blank hparse hweb hbase.no_query hbase.no_fragment hbase.no_blank hpath
    refine ⟨url, hread, hscheme, hhost, hport, hquery, hfragment, ?_⟩
    rw [hrender, htrimmed, (trimEnd_spell_iff hslashes).2 hbase.no_empty]

end Url
end Gatehouse
