import Gatehouse.Gateway.Server
import Gatehouse.Proofs.Gateway.Forwarded
import Gatehouse.Proofs.Http.Target
import Gatehouse.Proofs.Path.Namespace
import Gatehouse.Proofs.Url.Origin

/-!
# The path on the wire

The page server is asked for a URL that is put together as text and then read, so the path it is
asked for is not the one that was decided on, but what becomes of it when it is read: a backslash
separates segments, steps are taken, and characters are written with percent signs.

* `onWire_of_plain` — a path of plain segments is asked for as it is.
* `Service.path_of_outgoing` — the path that the page server is asked for, when it is one that may
  be put behind the origin.
* `Service.segments_of_outgoing` — whatever is put there, the path that is asked for has been read
  so.
-/

set_option autoImplicit false

namespace Gatehouse

/-! ## Pieces and segments -/

theorem ok_of_toOption {ε α : Type} {result : Except ε α} {a : α} (h : result.toOption = some a) :
    result = .ok a := by
  cases result with
  | error e => cases h
  | ok b => rw [Option.some.inj h]

namespace Url

theorem isPathPart_of_isPathChar {c : Char} (h : Http.Uri.isPathChar c = true) :
    isPathPart c = true := by
  have hne : c ≠ '?' ∧ c ≠ '#' := by
    constructor <;>
    · rintro rfl
      revert h
      decide
  have hvisible : 0x20 < c.toNat := by
    simp only [Http.Uri.isPathChar, Bool.or_eq_true, Bool.and_eq_true, beq_iff_eq,
      decide_eq_true_eq] at h
    omega
  exact isPathPart_iff.2 ⟨hvisible, hne⟩

theorem isQueryPart_of_isQueryChar {c : Char} (h : Http.Uri.isQueryChar c = true) :
    isQueryPart c = true := by
  have hne : c ≠ '#' := by
    rintro rfl
    revert h
    decide
  have hvisible : 0x20 < c.toNat := by
    simp only [Http.Uri.isQueryChar, Bool.or_eq_true, Bool.and_eq_true, beq_iff_eq,
      decide_eq_true_eq] at h
    omega
  exact isQueryPart_iff.2 ⟨hvisible, hne⟩

theorem isPathPart_of_isPlain {c : Char} (h : isPlain c = true) : isPathPart c = true := by
  have hall : ∀ n < 0x80, isPlain (Char.ofNat n) = true → isPathPart (Char.ofNat n) = true := by
    decide +kernel
  have hascii : c.toNat < 0x80 := by
    rw [isPlain, Bool.and_eq_true] at h
    exact of_decide_eq_true h.1
  have hc := hall c.toNat hascii
  rw [Char.ofNat_toNat] at hc
  exact hc h

/-- The pieces of a path are those of its segments. -/
theorem pieces_flatMap {segments : List (List Char)} (h : segments ≠ []) :
    piecesOf (segments.flatMap ('/' :: ·)) = segments.flatMap (Text.pieces (isSlash true)) := by
  induction segments with
  | nil => exact absurd rfl h
  | cons s segments ih =>
    cases segments with
    | nil => simp [piecesOf]
    | cons t segments =>
      have ih := ih (List.cons_ne_nil _ _)
      rw [piecesOf, List.flatMap_cons, List.cons_append, List.tail_cons, List.flatMap_cons,
        List.flatMap_cons, List.cons_append, Text.pieces_append_cons rfl]
      rw [piecesOf, List.flatMap_cons, List.cons_append, List.tail_cons] at ih
      rw [ih, List.flatMap_cons]

/-- The pieces of a path that is the text of its segments; a slash at the end adds an empty one. -/
theorem exists_pieces_of_tight {path : List Char} (h : Gatehouse.Path.IsTight path)
    (hne : Gatehouse.Path.segments path ≠ []) :
    ∃ empties, piecesOf path =
        (Gatehouse.Path.segments path).flatMap (Text.pieces (isSlash true)) ++ empties ∧
      ∀ s ∈ empties, s = [] := by
  obtain ⟨tail, hpath, htail⟩ := h
  have hpieces := pieces_flatMap hne
  rcases htail with rfl | rfl
  · refine ⟨[], ?_, by simp⟩
    rw [List.append_nil] at hpath ⊢
    rwa [← hpath] at hpieces
  · refine ⟨[[]], ?_, by simp⟩
    rw [← hpieces]
    conv => lhs; rw [hpath]
    obtain ⟨s, l, hcons⟩ := List.exists_cons_of_ne_nil hne
    rw [hcons, List.flatMap_cons]
    exact Text.pieces_append_cons rfl (s ++ l.flatMap ('/' :: ·)) []

/-- A plain segment of a path is one piece. -/
theorem pieces_of_plain {segment : List Char} (h : IsPlainSegment segment)
    (hslash : '/' ∉ segment) :
    Text.pieces (isSlash true) segment = [segment] := by
  refine Text.pieces_of_free fun c hc => ?_
  rw [isSlash, Bool.true_and, Bool.or_eq_false_iff, beq_eq_false_iff_ne, beq_eq_false_iff_ne]
  exact ⟨fun heq => hslash (heq ▸ hc), fun heq => h.free (heq ▸ hc)⟩

theorem flatMap_pieces_of_plain {segments : List (List Char)}
    (h : ∀ s ∈ segments, IsPlainSegment s ∧ '/' ∉ s) :
    segments.flatMap (Text.pieces (isSlash true)) = segments := by
  induction segments with
  | nil => rfl
  | cons s segments ih =>
    have hs := h s List.mem_cons_self
    rw [List.flatMap_cons, pieces_of_plain hs.1 hs.2,
      ih fun t ht => h t (List.mem_cons_of_mem s ht), List.singleton_append]

/-- Empty pieces add only empty segments. -/
theorem resolve_empties {empties : List (List Char)} (h : ∀ s ∈ empties, s = [])
    (segments : List (List Char)) : resolve segments empties = segments ++ empties :=
  resolve_of_no_step (fun s hs => by rw [h s hs]; rfl) segments

/-- Empty segments at the end do not matter for what stands in front, if that has none. -/
theorem prefix_append_empties_iff {front segments empties : List (List Char)}
    (hfront : ∀ s ∈ front, s ≠ []) (hempties : ∀ s ∈ empties, s = []) :
    front <+: segments ++ empties ↔ front <+: segments := by
  refine ⟨fun h => ?_, fun h => h.trans (List.prefix_append segments empties)⟩
  rcases Nat.le_total front.length segments.length with hle | hle
  · exact List.prefix_of_prefix_length_le h (List.prefix_append segments empties) hle
  · obtain ⟨more, rfl⟩ :=
      List.prefix_of_prefix_length_le (List.prefix_append segments empties) h hle
    have hmore : more <+: empties := (List.prefix_append_right_inj segments).1 h
    cases more with
    | nil =>
      simp
    | cons s more =>
      have hs := hempties s (hmore.subset List.mem_cons_self)
      exact absurd hs (hfront s (List.mem_append_right _ List.mem_cons_self))

theorem writeSegment_of_plain {segment : List Char} (h : IsPlainSegment segment) :
    writeSegment segment = String.ofList segment := by
  rw [writeSegment, encode_of_plain h.plain]

theorem resolve_of_plain {segments : List (List Char)} (h : ∀ s ∈ segments, IsPlainSegment s) :
    resolve [] segments = segments :=
  resolve_of_no_step (fun s hs => (h s hs).no_step) []

theorem trailing_of_plain {segments : List (List Char)} (h : ∀ s ∈ segments, IsPlainSegment s) :
    trailing segments = [] :=
  trailing_of_no_step fun s hs => (h s hs).no_step

/-- The text of a path is the path of its segments, if there are any. -/
theorem toList_render (segments : List String) :
    (Path.segments segments).render.toList =
      (segments.map String.toList).flatMap ('/' :: ·) := by
  have hslash : (fun s : String => ("/" ++ s).toList) = fun s => '/' :: s.toList :=
    funext fun s => String.toList_append
  rw [Path.render, String.toList_join, List.flatMap_map, List.flatMap_map, hslash]

end Url

open Url

/-- What becomes of a path when it is read as the path of a URL. -/
def onWire (path : String) : String :=
  (Url.Path.segments ((resolved path.toList).map writeSegment)).render

/-- A path of plain segments is asked for as it is. -/
theorem onWire_of_plain {path : String} (hnormal : Path.IsNormal path.toList)
    (h : ∀ s ∈ Path.segments path.toList, IsPlainSegment s) : onWire path = path := by
  have hslash : ∀ s ∈ Path.segments path.toList, IsPlainSegment s ∧ '/' ∉ s :=
    fun s hs => ⟨h s hs, (Path.of_mem_segments hs).2⟩
  apply String.toList_inj.1
  rw [onWire, toList_render, ← hnormal, Path.normalize]
  generalize Path.segments path.toList = l at *
  cases l with
  | nil =>
    rw [show resolved (Path.ofSegments []) = [[]] from rfl, List.map_singleton, writeSegment_nil]
    rfl
  | cons s l =>
    have hpieces : piecesOf (Path.ofSegments (s :: l)) = s :: l :=
      (pieces_flatMap (List.cons_ne_nil s l)).trans (flatMap_pieces_of_plain hslash)
    have hwritten : (resolved (Path.ofSegments (s :: l))).map writeSegment =
        (s :: l).map String.ofList := by
      rw [resolved, hpieces, resolve_of_plain h, trailing_of_plain h, List.append_nil]
      exact List.map_congr_left fun t ht => writeSegment_of_plain (h t ht)
    have hlists : String.toList ∘ String.ofList = id := funext fun _ => String.toList_ofList
    rw [hwritten, List.map_map, hlists, List.map_id]
    rfl

/-! ## Requests to the page server -/

namespace Gateway
namespace Service

variable {s : Service} {request : Http.Incoming} {id : RequestId} {target : String}
  {out : Http.Outgoing}

/-- A request that is sent is made of the one that is handed on and of a URL, which is read from the
text of its parts. -/
theorem of_outgoing (h : s.outgoing? request id target = some out) :
    ∃ url, Url.parse (s.addressOf request target) = .ok url ∧
      out.url = url.asked ∧ out.method = request.method ∧ request.body = .ok out.body ∧
      out.headers = (Http.loginFields url).replacedBy (withoutConnectionFields
        ((request.headers.remove "host").insert requestIdHeader (Text.bytes id.render))) := by
  rw [outgoing?] at h
  split at h
  · cases h
  · next body hbody =>
    obtain ⟨bare, hbare, hready⟩ := exists_of_bind_eq_ok (ok_of_toOption h)
    obtain ⟨url, hparsed, -, rfl⟩ := Http.Outgoing.to_eq_ok_iff.1 hbare
    obtain ⟨-, rfl⟩ := Http.Outgoing.ready_eq_ok_iff.1 hready
    exact ⟨url, hparsed, rfl, rfl, hbody, rfl⟩

/-- A path that may be put behind the origin of the page server. -/
structure IsTarget (target : String) : Prop where
  head : target.toList.head? = some '/'
  chars : ∀ c ∈ target.toList, Url.isPathPart c = true

/-- The path of a request that was read may be put there. -/
theorem isTarget_ofUri {uri : Http.Uri} (h : uri.IsClean) (headers : Headers) :
    IsTarget (Request.ofUri uri headers).path where
  head := (Request.isNormal_ofUri uri headers).head?
  chars _ hc := Url.isPathPart_of_isPathChar (Request.isPathChar_of_mem h headers hc)

/-- **The page server is asked for what becomes of a path when it is read.** -/
theorem path_of_outgoing (horigin : Url.IsOrigin s.forwarder.pagesUrl.toList)
    (hclean : request.uri.IsClean) (htarget : IsTarget target)
    (h : s.outgoing? request id target = some out) :
    out.url.path = .segments ((resolved target.toList).map writeSegment) := by
  obtain ⟨url, hparse, hurl, -⟩ := of_outgoing h
  have hquery : ∀ q, (request.uri.query.filter fun q => !q.isEmpty) = some q →
      ∀ c ∈ q.toList, Url.isQueryPart c = true := by
    intro q hq c hc
    exact Url.isQueryPart_of_isQueryChar (hclean.query q (Option.filter_eq_some_iff.1 hq).1 c hc)
  rw [hurl, Url.asked_path]
  exact Url.path_of_parse horigin htarget.head htarget.chars hquery hparse

/-- Whatever path is put behind the origin, the page server is asked for plain segments. -/
theorem segments_of_outgoing (horigin : Url.IsOrigin s.forwarder.pagesUrl.toList)
    (h : s.outgoing? request id target = some out) :
    ∃ path, out.url.path = .segments ((resolved path).map writeSegment) := by
  obtain ⟨url, hparse, hurl, -⟩ := of_outgoing h
  rw [addressOf, String.append_assoc] at hparse
  obtain ⟨path, hpath⟩ := Url.segments_of_parse horigin hparse
  exact ⟨path, by rw [hurl, Url.asked_path, hpath]⟩

/-- A gateway that is described by an origin sends its requests there. -/
theorem isOrigin_withChain {c : Config} (chain : Routing.Chain) (pages : Http.Peer)
    (h : Url.IsOrigin (Path.trimEnd c.gateway.pagesUrl.toList)) :
    Url.IsOrigin (withChain c chain pages).forwarder.pagesUrl.toList := by
  show Url.IsOrigin (String.ofList _).toList
  rwa [String.toList_ofList]

/-! ## For examples -/

/-- The defaults, with the two settings that have none. -/
def plainConfig : Config where
  backend := { apiUrl := "http://127.0.0.1:4000" }
  session := { secret := "s3cret" }

/-- The page server of `plainConfig` is named and nothing more. -/
theorem isOrigin_plainConfig : Url.IsOrigin (Path.trimEnd plainConfig.gateway.pagesUrl.toList) :=
  ⟨"http".toList, "127.0.0.1:3000".toList, by decide, Or.inl (by decide), by decide,
    List.all_eq_true.1 (by decide)⟩

/-- A request for a path without a query, without header fields and without a body. -/
def bareRequest (path : String) : Http.Incoming where
  method := "GET"
  uri := ⟨none, none, path, none⟩

end Service
end Gateway
end Gatehouse
