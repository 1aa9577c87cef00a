import Mathlib.Data.List.Nodup
import Gatehouse.Proofs.Config.Layers
import Gatehouse.Proofs.Http.Target
import Gatehouse.Proofs.Url.Forms
import Gatehouse.Rule.Basic

/-!
# Queries of redirects

A rule set that sends a user away can put names and values into the query of the page.  When the
browser asks for the page, the stages are given a table of what the query holds: each name once,
with the last value that was written for it.

In between is a request target, and whatever the names and values are, the query may stand in one.

* `Request.isTable_foldl_assign` — the table of some names and values.
* `Outcome.redirectWith_read` — the query that is written for a page is read again behind that page.
-/

set_option autoImplicit false

namespace Gatehouse
namespace Request

variable {table pairs : List (String × String)}

/-- A table of some names and values: it holds every name that is among them once, with its last
value, and no other name. -/
structure IsTable (table pairs : List (String × String)) : Prop where
  nodup_names : (table.map Prod.fst).Nodup
  lookup_eq : ∀ name, table.lookup name = pairs.reverse.lookup name

/-- One more pair at the end of some others is one more value assigned in their table. -/
theorem IsTable.assign (h : IsTable table pairs) (p : String × String) :
    IsTable (assign table p) (pairs ++ [p]) where
  nodup_names := by
    have hkept : ((table.filter fun q => q.1 != p.1).map Prod.fst).Nodup :=
      h.nodup_names.sublist (List.filter_sublist.map Prod.fst)
    rw [Request.assign, List.map_append, List.map_singleton, ← List.concat_eq_append]
    refine List.Nodup.concat (fun hmem => ?_) hkept
    obtain ⟨q, hq, hname⟩ := List.mem_map.1 hmem
    exact bne_iff_ne.1 (List.mem_filter.1 hq).2 hname
  lookup_eq name := by
    rw [Request.assign, List.lookup_append, List.reverse_concat]
    by_cases hname : p.1 = name
    · subst hname
      have hgone : (table.filter fun q => q.1 != p.1).lookup p.1 = none := by
        rw [List.lookup_eq_none_iff]
        exact fun q hq => bne_comm.trans (List.mem_filter.1 hq).2
      rw [hgone, Option.none_or, Config.lookup_cons_self, Config.lookup_cons_self]
    · have hkept : (table.filter fun q => q.1 != p.1).lookup name = table.lookup name :=
        Config.lookup_filter (fun _ => bne_iff_ne.2 (Ne.symm hname)) h.nodup_names
      rw [hkept, Config.lookup_cons_of_ne hname, Config.lookup_cons_of_ne hname, List.lookup_nil,
        Option.or_none, h.lookup_eq]

/-- **The table that is made of some names and values pair by pair.** -/
theorem isTable_foldl_assign (pairs : List (String × String)) :
    IsTable (pairs.foldl assign []) pairs := by
  induction pairs using List.reverseRecOn with
  | nil => exact ⟨List.nodup_nil, fun name => rfl⟩
  | append_singleton pairs p ih =>
    rw [List.foldl_concat]
    exact ih.assign p

end Request

namespace Rule
namespace Outcome

theorem redirectWith_nil (page : String) : redirectWith page [] = .redirect page none := rfl

theorem redirectWith_of_ne_nil (page : String) {params : List (String × String)} (h : params ≠ []) :
    redirectWith page params = .redirect page (some (Url.Form.render params)) := by
  have hwritten : (Url.Form.render params).isEmpty = false := by
    rwa [Url.Form.isEmpty_render, List.isEmpty_eq_false_iff]
  rw [redirectWith, hwritten]
  rfl

/-- **The query that is written for a page is read again behind that page,** if the whole is not too
long for a request target: the table that the stages are given is that of the names and values.
Where there are none, nothing is written. -/
theorem redirectWith_read {page : String} {uri : Http.Uri} (hhead : page.toList.head? = some '/')
    (hquery : '?' ∉ page.toList) (hfragment : '#' ∉ page.toList)
    (hpage : Http.Uri.parse page = .ok uri) (params : List (String × String)) :
    (params = [] → redirectWith page params = .redirect page none) ∧
      (params ≠ [] → ∃ query, redirectWith page params = .redirect page (some query) ∧
        ((page ++ "?" ++ query).utf8ByteSize ≤ 65534 →
          ∃ target, Http.Uri.parse (page ++ "?" ++ query) = .ok target ∧
            ∀ headers, Request.IsTable (Request.ofUri target headers).query params)) := by
  refine ⟨fun hnone => hnone ▸ redirectWith_nil page, fun hsome => ?_⟩
  refine ⟨Url.Form.render params, redirectWith_of_ne_nil page hsome, fun hlength => ?_⟩
  refine ⟨⟨none, none, page, some (Url.Form.render params)⟩, ?_, fun headers => ?_⟩
  · exact Http.Uri.parse_append hhead (Http.Uri.isPathChar_of_parse hhead hquery hfragment hpage)
      (fun c hc => Url.Form.isQueryChar_render hc) hlength
  · show Request.IsTable ((Url.Form.parse (Url.Form.render params)).foldl Request.assign []) params
    rw [Url.Form.parse_render]
    exact Request.isTable_foldl_assign params

/-- Names and values of every kind: without characters, with those that mean something in a query,
with some beyond ASCII, and one name with two values. -/
def oddParams : List (String × String) :=
  [("title", "Bravo Gas & Oil"), ("", ""), ("é=+", "50%"), ("title", "#?/ \uFFFD")]

theorem redirectWith_read_oddParams :
    redirectWith "/x" oddParams = .redirect "/x"
        (some "title=Bravo+Gas+%26+Oil&=&%C3%A9%3D%2B=50%25&title=%23%3F%2F+%EF%BF%BD") ∧
      ∃ target, Http.Uri.parse ("/x" ++ "?" ++
          "title=Bravo+Gas+%26+Oil&=&%C3%A9%3D%2B=50%25&title=%23%3F%2F+%EF%BF%BD") = .ok target ∧
        ∀ headers, Request.IsTable (Request.ofUri target headers).query oddParams := by
  have hwritten : redirectWith "/x" oddParams = .redirect "/x"
      (some "title=Bravo+Gas+%26+Oil&=&%C3%A9%3D%2B=50%25&title=%23%3F%2F+%EF%BF%BD") := by
    decide +kernel
  have hpage : Http.Uri.parse "/x" = .ok ⟨none, none, "/x", none⟩ := rfl
  obtain ⟨query, hquery, hread⟩ := (redirectWith_read (by decide) (by decide) (by decide) hpage
    oddParams).2 (List.cons_ne_nil _ _)
  rw [hwritten] at hquery
  obtain rfl := Option.some.inj (Outcome.redirect.inj hquery).2
  exact ⟨hwritten, hread (by decide +kernel)⟩

end Outcome
end Rule
end Gatehouse
