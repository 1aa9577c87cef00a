import Gatehouse.Proofs.Gateway.Wire
import Gatehouse.Proofs.Routing.Home
import Gatehouse.Registration.Records

/-!
# The home of a caller on the wire

A known caller is served paths below its home.  But the rest of such a path is up to the caller, and
when the path is read as that of a URL, the steps in it are taken.  So it may lead out of the
caller's home, and into another's.

* `at_home_iff` — the path that the page server is asked for starts with the caller's home just if
  the base is made of plain segments and the steps do not lead out of the home, or lead back.
* `led_out_of_home` — an input where it does not.
-/

set_option autoImplicit false

namespace Gatehouse

open Url

/-! ## What is below the home -/

namespace Routing
namespace Profile

variable {profile : Profile} {claims : Claims} {request : Request} {served : String}

/-- The pieces of what a caller has asked for below its home, as they are read in a URL. -/
def pieces (profile : Profile) (claims : Claims) (served : String) : List (List Char) :=
  ((Path.segments served.toList).drop (profile.home claims).length).flatMap
    (Text.pieces (isSlash true))

theorem plain_home (hbase : ∀ s ∈ Path.segments profile.basePath.toList, IsPlainSegment s) :
    ∀ s ∈ profile.home claims, IsPlainSegment s := by
  intro s hs
  rcases List.mem_append.1 hs with hs | hs
  · exact hbase s hs
  · have hall : ∀ role : Role, ∀ s ∈ Path.segments role.namespacePath.toList, IsPlainSegment s := by
      intro role
      cases role with
      | _ => decide
    exact hall claims.role s hs

theorem isTight_servedPath (profile : Profile) (resolver : Session.Resolver) (claims : Claims)
    (hpath : Path.IsNormal request.path.toList) :
    Path.IsTight ((profile.gate resolver).servedPath claims request).toList := by
  have hhead : claims.role.namespacePath.toList.head? ≠ some '/' ∧
      claims.role.namespacePath.toList ≠ [] := by
    cases claims.role with
    | _ => decide
  rw [Gate.servedPath, String.toList_ofList]
  exact Path.isTight_underNamespace _ hpath claims.role.cons_namespacePath hhead.1 hhead.2

theorem segments_servedPath_ne_nil (profile : Profile) (resolver : Session.Resolver)
    (claims : Claims) (hpath : Path.IsNormal request.path.toList) :
    Path.segments ((profile.gate resolver).servedPath claims request).toList ≠ [] := by
  obtain ⟨part, hsegments, -⟩ := profile.segments_servedPath resolver claims hpath
  rw [hsegments, home, Claims.namespacePath, claims.role.segments_namespacePath]
  simp

/-- Below a home of plain segments, the pieces of a path are the home and what was asked for. -/
theorem exists_pieces_of_servedPath (resolver : Session.Resolver)
    (hbase : ∀ s ∈ Path.segments profile.basePath.toList, IsPlainSegment s)
    (hpath : Path.IsNormal request.path.toList)
    (hserved : served = (profile.gate resolver).servedPath claims request) :
    ∃ empties, piecesOf served.toList =
        profile.home claims ++ profile.pieces claims served ++ empties ∧
      ∀ s ∈ empties, s = [] := by
  subst hserved
  obtain ⟨part, hsegments, -⟩ := profile.segments_servedPath resolver claims hpath
  obtain ⟨empties, hpieces, hempties⟩ :=
    exists_pieces_of_tight (profile.isTight_servedPath resolver claims hpath)
      (profile.segments_servedPath_ne_nil resolver claims hpath)
  refine ⟨empties, ?_, hempties⟩
  rw [hpieces, pieces, hsegments, List.drop_left, List.flatMap_append,
    flatMap_pieces_of_plain fun s hs => ⟨plain_home hbase s hs, (of_mem_home hs).2⟩]

/-- **The path starts with the home, just if the steps in what was asked for do not lead out of it
or lead back.** -/
theorem prefix_resolved_iff (resolver : Session.Resolver)
    (hbase : ∀ s ∈ Path.segments profile.basePath.toList, IsPlainSegment s)
    (hpath : Path.IsNormal request.path.toList)
    (hserved : served = (profile.gate resolver).servedPath claims request) :
    (profile.home claims).map String.ofList <+: (resolved served.toList).map writeSegment ↔
      profile.home claims <+: (resolve (profile.home claims) (profile.pieces claims served)).map
        (Percent.encode Percent.inPath) := by
  obtain ⟨empties, hpieces, hempties⟩ := exists_pieces_of_servedPath resolver hbase hpath hserved
  have hresolved : resolved served.toList =
      resolve (profile.home claims) (profile.pieces claims served) ++
        (empties ++ trailing (piecesOf served.toList)) := by
    have hleft : resolve [] (piecesOf served.toList) =
        resolve (profile.home claims) (profile.pieces claims served) ++ empties := by
      rw [hpieces, resolve_append, resolve_append, resolve_of_plain (plain_home hbase),
        resolve_empties hempties]
    rw [resolved, hleft, List.append_assoc]
  have hrest : ∀ s ∈ (empties ++ trailing (piecesOf served.toList)).map
      (Percent.encode Percent.inPath), s = [] := by
    intro s hs
    obtain ⟨t, ht, rfl⟩ := List.mem_map.1 hs
    have htnil : t = [] := (List.mem_append.1 ht).elim (hempties t) eq_nil_of_mem_trailing
    rw [htnil, encode_nil]
  have hwritten : writeSegment = String.ofList ∘ Percent.encode Percent.inPath := rfl
  rw [hwritten, ← List.map_map,
    List.prefix_map_iff_of_injective fun _ _ => String.ofList_injective, hresolved, List.map_append,
    prefix_append_empties_iff (fun s hs => (of_mem_home hs).1) hrest]

/-- Whoever takes no step up from a home of plain segments stays there. -/
theorem prefix_of_no_step_up (hbase : ∀ s ∈ Path.segments profile.basePath.toList, IsPlainSegment s)
    {pieces : List (List Char)} (h : ∀ piece ∈ pieces, isUp piece = false) :
    profile.home claims <+:
      (resolve (profile.home claims) pieces).map (Percent.encode Percent.inPath) := by
  have hwritten : (profile.home claims).map (Percent.encode Percent.inPath) = profile.home claims :=
    (List.map_congr_left fun s hs => encode_of_plain (plain_home hbase s hs).plain).trans
      (List.map_id _)
  have hprefix := (prefix_resolve h (profile.home claims)).map (Percent.encode Percent.inPath)
  rwa [hwritten] at hprefix

/-- What is served below a base of plain segments may be put behind an origin. -/
theorem isTarget_servedPath (resolver : Session.Resolver)
    (hbase : ∀ s ∈ Path.segments profile.basePath.toList, IsPlainSegment s)
    (hpath : Path.IsNormal request.path.toList)
    (hchars : ∀ c ∈ request.path.toList, isPathPart c = true) :
    Gateway.Service.IsTarget ((profile.gate resolver).servedPath claims request) := by
  obtain ⟨part, hsegments, hrest⟩ := profile.segments_servedPath resolver claims hpath
  have htight := profile.isTight_servedPath resolver claims hpath
  have hpart : ∀ s ∈ part, ∀ c ∈ s, isPathPart c = true := by
    intro s hs c hc
    have hmem := hrest ▸ List.mem_append_right _ hs
    exact hchars c (Path.mem_of_mem_stripBase
      (Text.mem_of_mem_pieces (List.mem_filter.1 hmem).1 hc))
  refine ⟨htight.head? (profile.segments_servedPath_ne_nil resolver claims hpath), fun c hc => ?_⟩
  rcases htight.of_mem hc with rfl | ⟨s, hs, hc⟩
  · decide
  · rw [hsegments] at hs
    rcases List.mem_append.1 hs with hs | hs
    · exact isPathPart_of_isPlain ((plain_home hbase s hs).plain c hc)
    · exact hpart s hs c hc

/-- Whether the path of a URL starts with a caller's home. -/
def IsAtHome (profile : Profile) (claims : Claims) (path : Url.Path) : Prop :=
  ∃ more, path = .segments ((profile.home claims).map String.ofList ++ more)

theorem isAtHome_segments_iff (segments : List String) :
    profile.IsAtHome claims (.segments segments) ↔
      (profile.home claims).map String.ofList <+: segments := by
  constructor
  · rintro ⟨more, h⟩
    rw [Url.Path.segments.inj h]
    exact List.prefix_append _ more
  · rintro ⟨more, rfl⟩
    exact ⟨more, rfl⟩

/-- A home at which the page server is asked for something has a base of plain segments. -/
theorem plain_of_prefix {path : List Char}
    (h : (profile.home claims).map String.ofList <+: (resolved path).map writeSegment) :
    ∀ s ∈ Path.segments profile.basePath.toList, IsPlainSegment s := by
  intro s hs
  have hmem := h.subset (List.mem_map_of_mem (List.mem_append_left _ hs))
  obtain ⟨piece, hpiece, hwritten⟩ := List.mem_map.1 hmem
  rw [← String.ofList_injective hwritten]
  exact isPlainSegment_of_mem_resolved hpiece

end Profile
end Routing

/-! ## What the page server is asked for -/

namespace Gateway
namespace Service

variable {c : Config} {profile : Routing.Profile} {resolver : Session.Resolver}
  {backend : Registration.Backend} {now : Nat} {peer : Http.Peer} {vitals : Vitals}
  {fresh : RequestId} {request : Http.Incoming} {state : State} {out : Http.Outgoing}
  {text served : String} {claims : Claims}

/-- **What a known caller is served is asked for below the caller's home, just if the base has plain
segments and the steps in what was asked for do not lead out of the home or lead back.**  So it is
if none of them leads up.  Requests for the gateway itself are left out; one of them asks for the
front page. -/
theorem at_home_iff (horigin : Url.IsOrigin (Path.trimEnd c.gateway.pagesUrl.toList))
    (hparsed : Http.Uri.parse text = .ok request.uri)
    (hown : Path.afterStart? ownPrefix.toList request.uri.path.toList = none)
    (hclaims : resolver now (.ofUri request.uri request.headers) = .ok claims)
    (hserved : (profile.chain resolver backend now).decision (idFor fresh request) state.trace
      (.ofUri request.uri request.headers) = .serve served)
    (hsent : out ∈ (withChain c (profile.chain resolver backend now) peer).sent vitals fresh request
      state) :
    (profile.IsAtHome claims out.url.path ↔
      (∀ s ∈ Path.segments profile.basePath.toList, Url.IsPlainSegment s) ∧
        profile.home claims <+:
          (Url.resolve (profile.home claims) (profile.pieces claims served)).map
            (Percent.encode Percent.inPath)) ∧
    ((∀ s ∈ Path.segments profile.basePath.toList, Url.IsPlainSegment s) →
      (∀ piece ∈ profile.pieces claims served, Url.isUp piece = false) →
        profile.IsAtHome claims out.url.path) := by
  have hchain : (withChain c (profile.chain resolver backend now) peer).chain =
      profile.chain resolver backend now := rfl
  obtain ⟨target, htarget, hout⟩ := exists_target_of_sent hchain hown hsent
  rw [hchain, hserved] at htarget
  obtain rfl : served = target := Option.some.inj htarget
  rw [Routing.Profile.decision_eq_outcome] at hserved
  obtain ⟨-, -, hpath⟩ := Routing.Profile.outcome_serve hclaims hserved
  have horigin := isOrigin_withChain (profile.chain resolver backend now) peer horigin
  have hclean := Http.Uri.isClean_of_parse hparsed
  have hnormal := Request.isNormal_ofUri request.uri request.headers
  -- below a base of plain segments the path on the wire is that of the pieces
  have hwire : (∀ s ∈ Path.segments profile.basePath.toList, Url.IsPlainSegment s) →
      (profile.IsAtHome claims out.url.path ↔ profile.home claims <+:
        (Url.resolve (profile.home claims) (profile.pieces claims served)).map
          (Percent.encode Percent.inPath)) := by
    intro hbase
    have htarget : IsTarget served := hpath ▸ Routing.Profile.isTarget_servedPath resolver hbase
      hnormal (isTarget_ofUri hclean request.headers).chars
    rw [path_of_outgoing horigin hclean htarget hout, Routing.Profile.isAtHome_segments_iff,
      Routing.Profile.prefix_resolved_iff resolver hbase hnormal hpath]
  refine ⟨⟨fun hhome => ?_, fun h => (hwire h.1).2 h.2⟩, fun hbase hpieces => ?_⟩
  · obtain ⟨path, hread⟩ := segments_of_outgoing horigin hout
    have hbase : ∀ s ∈ Path.segments profile.basePath.toList, Url.IsPlainSegment s := by
      rw [hread, Routing.Profile.isAtHome_segments_iff] at hhome
      exact Routing.Profile.plain_of_prefix hhome
    exact ⟨hbase, (hwire hbase).1 hhome⟩
  · exact (hwire hbase).2 (Routing.Profile.prefix_of_no_step_up hbase hpieces)

/-- The chain of the administrators' application, with one caller. -/
def adminChain (claims : Claims) : Routing.Chain :=
  (Routing.Profile.forApp .administration).chain (Session.fixed (some claims))
    (Registration.Records.backend {}) 0

theorem at_home_iff_contacts :
    ∃ out ∈ (withChain plainConfig (adminChain Routing.Profile.industryUser) .unreachable).sent {}
        ⟨1⟩ (bareRequest "/administration/contacts") {},
      (Routing.Profile.forApp .administration).IsAtHome Routing.Profile.industryUser
        out.url.path := by
  obtain ⟨out, hsent⟩ := List.exists_mem_of_length_pos
    (l := (withChain plainConfig (adminChain Routing.Profile.industryUser) .unreachable).sent {} ⟨1⟩
      (bareRequest "/administration/contacts") {}) (by decide +kernel)
  have hparsed : Http.Uri.parse "/administration/contacts" =
      .ok (bareRequest "/administration/contacts").uri := ok_of_toOption (by decide +kernel)
  have hclaims : Session.fixed (some Routing.Profile.industryUser) 0
      (.ofUri (bareRequest "/administration/contacts").uri {}) =
        .ok Routing.Profile.industryUser := rfl
  have hserved : (adminChain Routing.Profile.industryUser).decision
      (idFor ⟨1⟩ (bareRequest "/administration/contacts")) (State.trace {})
      (.ofUri (bareRequest "/administration/contacts").uri {}) =
        .serve "/administration/bceidbusiness/industry_user/contacts" := by decide +kernel
  exact ⟨out, hsent, (at_home_iff isOrigin_plainConfig hparsed (by decide) hclaims hserved
    hsent).2 (by decide +kernel) (by decide +kernel)⟩

/-- An industry user who steps up and down again is shown pages of the administrators. -/
theorem led_out_of_home :
    (Http.Uri.parse "/administration/../../idir/cas_admin/contacts").toOption =
        some (bareRequest "/administration/../../idir/cas_admin/contacts").uri ∧
      (adminChain Routing.Profile.industryUser).decision ⟨1⟩ {}
        (.ofUri (bareRequest "/administration/../../idir/cas_admin/contacts").uri {}) =
          .serve "/administration/bceidbusiness/industry_user/../../idir/cas_admin/contacts" ∧
      ((withChain plainConfig (adminChain Routing.Profile.industryUser) .unreachable).sent {} ⟨1⟩
        (bareRequest "/administration/../../idir/cas_admin/contacts") {}).map (·.url.path) =
          [.segments ["administration", "idir", "cas_admin", "contacts"]] ∧
      ¬ (Routing.Profile.forApp .administration).IsAtHome Routing.Profile.industryUser
        (.segments ["administration", "idir", "cas_admin", "contacts"]) := by
  refine ⟨by decide +kernel, by decide +kernel, by decide +kernel, ?_⟩
  rw [Routing.Profile.isAtHome_segments_iff]
  decide

end Service
end Gateway
end Gatehouse
