import Gatehouse.Proofs.Routing.Home
import Gatehouse.Rule.Named

/-!
# The families of protected paths

A rule set looks at the segments of a path and at nothing else.  Whether it protects a path that
starts with the namespace of a caller differs between the two: pages about operations are protected
wherever the word stands, and the pages for selecting an operator only if it stands in front.

* `protects_congr` — paths with the same segments are both protected, or neither is.
* `operations_protects_append`, `selectOperator_protects_namespace` — the difference.
-/

set_option autoImplicit false

namespace Gatehouse

namespace Rule

variable {rules : RuleSet} {rest rest' : String}

/-- Paths with the same segments are both protected, or neither is. -/
theorem protects_congr (hrules : rules ∈ all)
    (h : Path.segments rest.toList = Path.segments rest'.toList) :
    rules.protects rest = rules.protects rest' := by
  have hsegments : segments rest = segments rest' := by rw [segments, segments, h]
  simp only [all, List.mem_cons, List.not_mem_nil, or_false] at hrules
  rcases hrules with rfl | rfl
  · simp only [operations, hsegments]
  · simp only [selectOperator, hsegments]

/-- A page about operations is one also below some more segments. -/
theorem operations_protects_append {front : List (List Char)}
    (h : Path.segments rest'.toList = front ++ Path.segments rest.toList)
    (hrest : operations.protects rest = true) : operations.protects rest' = true := by
  simp only [operations, segments, h, List.map_append, List.contains_iff_mem, List.mem_append]
    at hrest ⊢
  exact Or.inr hrest

/-- In a namespace nothing is protected that is for selecting an operator. -/
theorem selectOperator_protects_namespace (role : Role) {part : List (List Char)}
    (h : Path.segments rest.toList = Path.segments role.namespacePath.toList ++ part) :
    selectOperator.protects rest = false := by
  simp only [selectOperator, segments, h, role.segments_namespacePath]
  cases role with
  | _ => rfl

/-- Every rule set looks at the records of the user's operator first. -/
theorem exists_sources (hrules : rules ∈ all) : ∃ more, rules.sources = .current :: more := by
  simp only [all, List.mem_cons, List.not_mem_nil, or_false] at hrules
  rcases hrules with rfl | rfl
  · exact ⟨[], rfl⟩
  · exact ⟨[.pending], rfl⟩

theorem operations_ne_selectOperator : operations ≠ selectOperator := by
  intro h
  have hname : operations.name = selectOperator.name := congrArg RuleSet.name h
  revert hname
  decide

end Rule
end Gatehouse
