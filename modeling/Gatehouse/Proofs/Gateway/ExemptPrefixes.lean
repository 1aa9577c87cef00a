import Gatehouse.Config.Validation
import Gatehouse.Proofs.Gateway.Wire
import Gatehouse.Proofs.Path.Starts
import Gatehouse.Proofs.Routing.Strangers

/-!
# What is behind an exempt prefix

Requests for what is behind an exempt prefix pass without a look at their session.  The prefixes of
a configuration are texts that start with a slash and may end with one; but what they are compared
with is the path of a request in normal form, which does not, so not all that is behind a prefix is
exempt.

* `passesUnseen_iff` — the requests that pass without a look at their session are those that the
  gate exempts, whoever looks sessions up.
* `passesUnseen_behind_iff` — when a request for a path behind an exempt prefix is one of them: if
  the prefix is kept in front when the path is put in normal form, and else only for another reason.
* `intercepted_behind_prefix` — a path behind an exempt prefix that is closed to callers without a
  session.
-/

set_option autoImplicit false

namespace Gatehouse
namespace Routing

variable {request : Request}

/-! ## Passing unseen -/

namespace Gate

variable {gate : Gate}

theorem isExempt_iff : gate.isExempt request = true ↔
    gate.isOnboarding request.path.toList = true ∨
      ∃ start ∈ gate.exemptPrefixes, start.toList <+: request.path.toList := by
  rw [isExempt, Bool.or_eq_true, List.any_eq_true]
  simp only [List.isPrefixOf_iff_prefix]

/-- For an exempt request the gate neither asks who is calling nor runs what comes after it. -/
theorem process_of_exempt (h : gate.isExempt request = true) (now : Nat) (next : Handler) :
    gate.process now request next =
      (do
        Routed.log .debug target "exempt path, not intercepted"
          [("http.path", Json.str request.path)]
        return .passThrough) := by
  rw [process, if_pos h]

end Gate

namespace Profile

variable {profile : Profile} {resolver : Session.Resolver} {backend : Registration.Backend}
  {now : Nat} {id : RequestId} {trace : Trace}

/-- A request passes without a look at its session: whoever looks sessions up and whatever comes of
it, the request passes as it is, the gate is the only stage that is entered and records nothing, and
what is written down of the request is the same. -/
def PassesUnseen (profile : Profile) (backend : Registration.Backend) (now : Nat) (id : RequestId)
    (trace : Trace) (request : Request) : Prop :=
  ∃ after : Trace, ∀ resolver : Session.Resolver,
    (profile.chain resolver backend now).start id trace request =
      (.passThrough,
        { context := { requestId := id, visited := ["authorization"] }, trace := after })

theorem passesUnseen_of_exempt (h : (profile.gate resolver).isExempt request = true) :
    profile.PassesUnseen backend now id trace request := by
  refine ⟨((profile.chain resolver backend now).start id trace request).2.trace, fun other => ?_⟩
  -- the gate of each resolver exempts the same requests, and then the resolver is out of sight
  have hother : (profile.gate other).isExempt request = true := h
  simp only [Chain.start, Chain.process, Chain.processWith, Chain.handler, chain, List.foldr_cons,
    Stage.before, Gate.stage, Gate.process_of_exempt h, Gate.process_of_exempt hother]
  rfl

/-- There is a stage after the gate. -/
theorem stageNames_ne_gate (profile : Profile) (resolver : Session.Resolver)
    (backend : Registration.Backend) (now : Nat) :
    (profile.chain resolver backend now).stageNames ≠ ["authorization"] := by
  rw [stageNames_eq_map_steps, ne_eq, List.cons.injEq, List.map_eq_nil_iff, stepsAfterGate]
  simp

theorem exempt_of_passesUnseen (h : profile.PassesUnseen backend now id trace request)
    (resolver : Session.Resolver) : (profile.gate resolver).isExempt request = true := by
  -- somebody who finds no session would send the caller away, or go on
  let nobody : Session.Resolver := fun _ _ => .error .absent
  obtain ⟨after, hpasses⟩ := h
  obtain ⟨hdecision, -, -, -, hvisited⟩ :=
    start_of_unknown profile backend id trace (rfl : nobody now request = .error .absent)
  rw [hpasses nobody] at hdecision hvisited
  by_contra hintercepted
  have hclosed : (profile.gate nobody).isExempt request = false :=
    Bool.eq_false_iff.2 hintercepted
  rw [hclosed] at hdecision hvisited
  cases hlisted : (profile.gate nobody).isAllowListed request with
  | false =>
    rw [hlisted] at hdecision
    cases hdecision
  | true =>
    rw [hlisted] at hvisited
    exact stageNames_ne_gate profile nobody backend now hvisited.symm

/-- **The requests that pass without a look at their session are those that the gate exempts.** -/
theorem passesUnseen_iff (resolver : Session.Resolver) :
    profile.PassesUnseen backend now id trace request ↔
      (profile.gate resolver).isExempt request = true :=
  ⟨fun h => exempt_of_passesUnseen h resolver, passesUnseen_of_exempt⟩

end Profile
end Routing

/-! ## The prefixes of a configuration -/

namespace Config

open Routing
open Gateway.Service (plainConfig bareRequest)

variable {c : Config} {start : String}

/-- The exempt prefixes of an accepted configuration start with a slash. -/
theorem isAbsolute_of_exempt (h : c.validate = .ok ()) (hstart : start ∈ c.app.exemptPrefixes) :
    start.toList.head? = some '/' := by
  rw [validate_eq_ok_iff, faults, List.filterMap_eq_nil_iff] at h
  simp only [List.forall_mem_cons, id_eq] at h
  obtain ⟨-, -, -, -, -, -, -, -, hprefixes, -⟩ := h
  rw [prefixFault, Option.map_eq_none_iff, List.find?_eq_none] at hprefixes
  have habsolute := hprefixes start hstart
  rw [Bool.not_eq_true, Bool.not_eq_false', isAbsolute, beq_iff_eq] at habsolute
  exact habsolute

/-- **A request for a path behind an exempt prefix passes without a look at its session just if the
prefix is kept in front when the path is put in normal form,** or the path is then the page where
people sign in or below it, or behind another exempt prefix.  A prefix is kept if it has no slash
too many, and either does not end with a slash or is followed by a segment, or is the root. -/
theorem passesUnseen_behind_iff (h : c.validate = .ok ()) (hstart : start ∈ c.app.exemptPrefixes)
    {uri : Http.Uri} {rest : List Char} (hpath : uri.path.toList = start.toList ++ rest)
    (headers : Headers) (backend : Registration.Backend) (now : Nat) (id : RequestId)
    (trace : Trace) :
    c.profile.PassesUnseen backend now id trace (.ofUri uri headers) ↔
      Path.IsKeptBefore start.toList rest ∨
        (c.profile.gate c.resolver.resolve).isOnboarding (Path.normalize uri.path.toList) = true ∨
        ∃ other ∈ c.app.exemptPrefixes,
          other ≠ start ∧ other.toList <+: Path.normalize uri.path.toList := by
  have hnormal : (Request.ofUri uri headers).path.toList = Path.normalize uri.path.toList :=
    String.toList_ofList
  have hkept : start.toList <+: Path.normalize uri.path.toList ↔
      Path.IsKeptBefore start.toList rest := by
    rw [hpath]
    exact Path.isPrefix_normalize_append_iff (isAbsolute_of_exempt h hstart) rest
  rw [Profile.passesUnseen_iff c.resolver.resolve, Gate.isExempt_iff, hnormal, ← hkept]
  constructor
  · rintro (honboarding | ⟨other, hmem, hfront⟩)
    · exact Or.inr (Or.inl honboarding)
    · by_cases hsame : other = start
      · exact Or.inl (hsame ▸ hfront)
      · exact Or.inr (Or.inr ⟨other, hmem, hsame, hfront⟩)
  · rintro (hfront | honboarding | ⟨other, hmem, -, hfront⟩)
    · exact Or.inr ⟨start, hstart, hfront⟩
    · exact Or.inl honboarding
    · exact Or.inr ⟨other, hmem, hfront⟩

theorem passesUnseen_behind_iff_static :
    plainConfig.validate = .ok () ∧
      plainConfig.profile.PassesUnseen (Registration.Records.backend {}) 0 ⟨1⟩ {}
        (.ofUri (bareRequest "/_next//static/app.js/").uri {}) := by
  have hvalid : plainConfig.validate = .ok () := ok_of_toOption (by decide +kernel)
  have hstart : "/_next/" ∈ plainConfig.app.exemptPrefixes := by decide
  have hpath : (bareRequest "/_next//static/app.js/").uri.path.toList =
      "/_next/".toList ++ "/static/app.js/".toList := by decide
  have hkept : Path.IsKeptBefore "/_next/".toList "/static/app.js/".toList :=
    ⟨⟨['/'], by decide, Or.inr rfl⟩, Or.inr (Or.inr (by decide))⟩
  exact ⟨hvalid, (passesUnseen_behind_iff hvalid hstart hpath {} _ 0 ⟨1⟩ {}).2 (Or.inl hkept)⟩

/-- The directory of the assets is behind an exempt prefix, and a caller without a session who asks
for it is sent to sign in. -/
theorem intercepted_behind_prefix :
    plainConfig.validate.toOption = some () ∧
      (Http.Uri.parse "/_next/").toOption = some (bareRequest "/_next/").uri ∧
      (∃ start ∈ plainConfig.app.exemptPrefixes,
        start.toList <+: (bareRequest "/_next/").uri.path.toList) ∧
      plainConfig.resolver.resolve 0 (.ofUri (bareRequest "/_next/").uri {}) = .error .absent ∧
      (plainConfig.profile.chain plainConfig.resolver.resolve (Registration.Records.backend {})
        0).decision ⟨1⟩ {} (.ofUri (bareRequest "/_next/").uri {}) =
          .redirect "/onboarding" .temporaryRedirect := by
  refine ⟨?_, ?_, ⟨"/_next/", ?_, ?_⟩, rfl, ?_⟩ <;> decide +kernel

end Config
end Gatehouse
