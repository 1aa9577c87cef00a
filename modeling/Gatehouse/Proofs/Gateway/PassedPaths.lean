import Gatehouse.Proofs.Config.BaseUrls
import Gatehouse.Proofs.Gateway.AskedOnce
import Gatehouse.Proofs.Gateway.AnonymousPages
import Gatehouse.Proofs.Url.Behind

/-!
# The path of what passes through

A request that is let through as it is has the page server asked for the path that the stages have
seen, and they see it in normal form.  So a slash that meets another is dropped on the way, and so
is a slash at the end.  A page server that sends its callers from `/docs` to `/docs/` never gets to
see that they went there.

* `passed_path` — what the page server is asked for, and when it is the path of the request.
* `slash_dropped` — an input where it is not.
-/

set_option autoImplicit false

namespace Gatehouse
namespace Gateway
namespace Service

open Url (trimmed baseFolders pathBehind SlashesUndone)

variable {c : Config} {chain : Routing.Chain} {peer : Http.Peer} {vitals : Vitals}
  {fresh : RequestId} {request : Http.Incoming} {state : State} {out : Http.Outgoing}
  {text : String}

/-- The text of the URL that stands for a path and the query of a request at the page server. -/
def urlText (c : Config) (request : Http.Incoming) (path : String) : String :=
  trimmed c.gateway.pagesUrl ++ path ++
    Url.marked "?" (request.uri.query.filter fun q => !q.isEmpty)

/-- What the page server is asked for if a request passes through. -/
structure PassesPath (c : Config) (request : Http.Incoming) (out : Http.Outgoing) : Prop where
  /-- It is asked for the normal form of the path, behind the path of its own URL. -/
  requested : ∃ url, Url.parse (urlText c request (Request.normalized request.uri.path)) = .ok url ∧
    out.url = url.asked ∧
    url.path = pathBehind (baseFolders c.gateway.pagesUrl.toList)
      (Request.normalized request.uri.path)
  /-- The path itself stands for a URL as well, and that is the one that is asked for just if the
  slashes that are too many are undone. -/
  unchanged : request.uri.path.toList.head? = some '/' →
    ∃ url, Url.parse (urlText c request request.uri.path) = .ok url ∧
      url.path = pathBehind (baseFolders c.gateway.pagesUrl.toList) request.uri.path ∧
      (out.url = url.asked ↔
        SlashesUndone (baseFolders c.gateway.pagesUrl.toList) request.uri.path.toList)
  /-- If there are no steps in the path, that is just if it is in normal form. -/
  plain : request.uri.path.toList.head? = some '/' →
    (∀ piece ∈ Url.piecesOf request.uri.path.toList, Url.isStep piece = false) →
    (SlashesUndone (baseFolders c.gateway.pagesUrl.toList) request.uri.path.toList ↔
      Path.IsNormal request.uri.path.toList)
  /-- Targets without a path are an authority alone and an asterisk; they are given a slash. -/
  bare : request.uri.path.toList.head? ≠ some '/' →
    (request.uri.path = "" ∨ request.uri.path = "*") ∧
      Request.normalized request.uri.path = "/" ++ request.uri.path

theorem toList_normalized (path : String) :
    (Request.normalized path).toList = Path.normalize path.toList :=
  String.toList_ofList

theorem pathBehind_normalized_iff (base : List (List Char)) {path : String}
    (h : path.toList.head? = some '/') :
    pathBehind base (Request.normalized path) = pathBehind base path ↔
      SlashesUndone base path.toList := by
  rw [pathBehind, pathBehind, Url.Path.segments.injEq, toList_normalized,
    (Url.trails_readBehind base h).map_eq_iff, Url.readBehind_normalize_iff base h]

/-- **What passes through is asked for under its path in normal form, and that is the path of the
request just if no slash of it is too many, or what it leaves is undone.**  Only the path of the URL
that is asked for depends on it.  The page server has to be one whose URL has no marks; behind a
mark there is no path. -/
theorem passed_path (hvalid : c.validate = .ok ()) (hmark : '?' ∉ c.gateway.pagesUrl.toList)
    (hhash : '#' ∉ c.gateway.pagesUrl.toList) (hparsed : Http.Uri.parse text = .ok request.uri)
    (hendpoint : endpoint? request = none)
    (hpass : ((withChain c chain peer).routed fresh request state).1.decision = .passThrough)
    (hsent : (((withChain c chain peer).handle vitals fresh request).run state).2.trace.forwarded =
      (withChain c chain peer).sentBefore fresh request state ++ [out]) :
    PassesPath c request out := by
  obtain ⟨-, pages, hpages, hweb⟩ := Config.isWeb_of_validate hvalid
  have hclean := Http.Uri.isClean_of_parse hparsed
  have hquery : ∀ q, (request.uri.query.filter fun q => !q.isEmpty) = some q →
      ∀ c ∈ q.toList, Url.isQueryPart c = true := by
    intro q hq c hc
    exact Url.isQueryPart_of_isQueryChar (hclean.query q (Option.filter_eq_some_iff.1 hq).1 c hc)
  -- the request that was sent is the one for the path that the stages have seen
  have hasked : (withChain c chain peer).outgoing? request (idFor fresh request)
      (Request.normalized request.uri.path) = some out := by
    rw [forwarded_handle, List.append_cancel_left_eq, asked_of_app hendpoint, target?, hpass]
      at hsent
    exact Option.toList_eq_singleton_iff.1 hsent
  obtain ⟨url, hurl, hout, -⟩ := of_outgoing hasked
  have htarget : IsTarget (Request.normalized request.uri.path) :=
    isTarget_ofUri hclean request.headers
  obtain ⟨hpath, hother⟩ :=
    Url.parse_behind hpages hweb hmark hhash htarget.head htarget.chars hquery hurl
  refine ⟨⟨url, hurl, hout, hpath⟩, fun hhead => ?_, fun hhead hsteps => ?_, fun hhead => ?_⟩
  · refine ⟨_, hother request.uri.path hhead fun d hd =>
      Url.isPathPart_of_isPathChar (hclean.path d hd), rfl, ?_⟩
    rw [← pathBehind_normalized_iff _ hhead, ← hpath, hout]
    refine (Eq.congr_right (url.asked_with_path _)).trans ⟨fun heq => ?_, fun heq => ?_⟩
    · exact url.asked_path.symm.trans (congrArg Url.path heq)
    · rw [← heq, ← url.asked_path]
  · rw [← Url.readBehind_normalize_iff _ hhead,
      Url.readBehind_normalize_iff_of_no_step _ hhead hsteps]
  · have hnone := (Http.Uri.path_of_parse hparsed).resolve_left hhead
    refine ⟨hnone, ?_⟩
    rcases hnone with hnone | hnone <;>
    · rw [hnone]
      decide

theorem passed_path_undone :
    ∃ out, (((ofConfig plainConfig {} 0).handle {} ⟨1⟩
        (bareRequest "/_next//../../_next/app.js")).run {}).2.trace.forwarded = [out] ∧
      PassesPath plainConfig (bareRequest "/_next//../../_next/app.js") out := by
  obtain ⟨out, hasked⟩ := Option.isSome_iff_exists.1
    (show ((ofConfig plainConfig {} 0).asked? ⟨1⟩
      (bareRequest "/_next//../../_next/app.js") {}).isSome = true by decide +kernel)
  have hsent := (ofConfig plainConfig {} 0).forwarded_handle {} ⟨1⟩
    (bareRequest "/_next//../../_next/app.js") {}
  rw [hasked] at hsent
  have hparsed : Http.Uri.parse "/_next//../../_next/app.js" =
      .ok (bareRequest "/_next//../../_next/app.js").uri := ok_of_toOption (by decide +kernel)
  have hbefore : (ofConfig plainConfig {} 0).sentBefore ⟨1⟩
      (bareRequest "/_next//../../_next/app.js") {} = [] := by decide +kernel
  refine ⟨out, by rw [hsent, hbefore]; rfl, ?_⟩
  exact passed_path (ok_of_toOption (by decide +kernel)) (by decide) (by decide) hparsed
    (by decide) (by decide +kernel) hsent

/-- A slash at the end is lost. -/
theorem slash_dropped :
    plainConfig.validate.toOption = some () ∧
      (Http.Uri.parse "/_next/app.js/").toOption = some (bareRequest "/_next/app.js/").uri ∧
      ((ofConfig plainConfig {} 0).routed ⟨1⟩ (bareRequest "/_next/app.js/") {}).1.decision =
        .passThrough ∧
      ((ofConfig plainConfig {} 0).sent {} ⟨1⟩ (bareRequest "/_next/app.js/") {}).map
        (·.url.path) = [.segments ["_next", "app.js"]] ∧
      (Url.parse (urlText plainConfig (bareRequest "/_next/app.js/") "/_next/app.js/")).toOption.map
        (·.path) = some (.segments ["_next", "app.js", ""]) := by
  refine ⟨?_, ?_, ?_, ?_, ?_⟩ <;> decide +kernel

end Service
end Gateway
end Gatehouse
