import FacetedSearch.Compile
import FacetedSearch.Proofs.Selection.Rewound
import FacetedSearch.Proofs.Selection.Unchanged

/-!
# What a query depends on

The query of a state depends on its selections, its ranges and its free text, and on all of a configuration that
places them.  Neither the page and the sort keys nor the orders of the facets have a part in it.

* `Config.Reordered`: configurations that differ in the orders of their facets only.
* `Reordered.compileQuery_eq`: such configurations compile a state to the same query.
* `compileQuery_apply`: the commands that keep the query.
-/

namespace FacetedSearch

/-- The facet without its order. -/
def Facet.unordered (f : Facet) : Facet := { f with order := .term }

namespace Config

/-- The selections are placed by the place of each key and by the groups of the state. -/
private theorem placeSelections_congr {c d : Config} {s t : SearchState} (hplace : d.placeFor = c.placeFor)
    (hgroup : orGroup t = orGroup s) (seen : List String) (xs : List Selection) :
    d.placeSelections t seen xs = c.placeSelections s seen xs := by
  induction xs generalizing seen with
  | nil => rfl
  | cons x xs ih =>
    rw [placeSelections, placeSelections, placeOfAnd, placeOfAnd, hplace, hgroup, ih, ih]

/-- The second configuration is the first one but for the orders of the facets. -/
def Reordered (c d : Config) : Prop :=
  ∃ facets, facets.map Facet.unordered = c.facets.map Facet.unordered ∧ d = { c with facets }

namespace Reordered

variable {c d e : Config}

theorem refl (c : Config) : c.Reordered c := ⟨c.facets, rfl, rfl⟩

theorem trans (hcd : c.Reordered d) (hde : d.Reordered e) : c.Reordered e := by
  obtain ⟨facets, hfacets, rfl⟩ := hcd
  obtain ⟨facets', hfacets', rfl⟩ := hde
  exact ⟨facets', hfacets'.trans hfacets, rfl⟩

theorem symm (h : c.Reordered d) : d.Reordered c := by
  obtain ⟨facets, hfacets, rfl⟩ := h
  exact ⟨c.facets, hfacets.symm, rfl⟩

/-- A new order for one facet. -/
theorem set {i : Nat} {f : Facet} (hf : c.facets[i]? = some f) (o : ValueOrder) :
    c.Reordered { c with facets := c.facets.set i { f with order := o } } := by
  refine ⟨_, ?_, rfl⟩
  obtain ⟨hi, hget⟩ := List.getElem?_eq_some_iff.1 hf
  have hmap : i < (c.facets.map Facet.unordered).length := by rwa [List.length_map]
  have hsame : Facet.unordered { f with order := o } = (c.facets.map Facet.unordered)[i] := by
    rw [List.getElem_map, hget]
    rfl
  rw [List.map_set, hsame, List.set_getElem_self]

theorem search_eq (h : c.Reordered d) : d.search = c.search := by
  obtain ⟨_, _, rfl⟩ := h
  rfl

/-- The facet at some place has the same field. -/
theorem field_eq (h : c.Reordered d) (i : Nat) : (d.facets[i]?).map (·.field) = (c.facets[i]?).map (·.field) := by
  obtain ⟨facets, hfacets, rfl⟩ := h
  have hi := congrArg (fun fs : List Facet => (fs[i]?).map (·.field)) hfacets
  simp only [List.getElem?_map, Option.map_map] at hi
  exact hi

/-- A range is placed by the field of its facet alone. -/
private theorem placeRanges_eq (h : c.Reordered d) : d.placeRanges = c.placeRanges := by
  have hrange : ∀ r : FacetRange,
      (d.facets[r.facet]?).map (fun f => (d.placeFor f.field .query, Clause.range f.field r.low r.high)) =
        (c.facets[r.facet]?).map fun f => (c.placeFor f.field .query, Clause.range f.field r.low r.high) := by
    intro r
    have hfield := congrArg
      (Option.map fun field => (c.placeFor field .query, Clause.range field r.low r.high)) (h.field_eq r.facet)
    rw [Option.map_map, Option.map_map] at hfield
    obtain ⟨facets, -, rfl⟩ := h
    exact hfield
  funext rs
  exact congrArg (fun range => rs.filterMap range) (funext hrange)

theorem compileQuery_eq (h : c.Reordered d) (s : SearchState) : d.compileQuery s = c.compileQuery s := by
  have hranges := h.placeRanges_eq
  obtain ⟨facets, -, rfl⟩ := h
  have hselections : Config.placeSelections { c with facets } s [] s.selections =
      c.placeSelections s [] s.selections := placeSelections_congr (by rfl) (by rfl) [] s.selections
  rw [compileQuery, compileQuery, placed, placed, hselections, hranges]
  rfl

end Reordered

/-- The query does not depend on the page and the sort keys. -/
theorem compileQuery_page_sort (c : Config) (s : SearchState) (page : Page) (sort : List SortKey) :
    c.compileQuery { s with page, sort } = c.compileQuery s := by
  have hselections : c.placeSelections { s with page, sort } [] s.selections =
      c.placeSelections s [] s.selections := placeSelections_congr (by rfl) (by rfl) [] s.selections
  rw [compileQuery, compileQuery, placed, placed, hselections]
  rfl

/-- A command keeps the query when it is about the page, the sort keys or an order, or when it changes nothing. -/
theorem compileQuery_apply {c : Config} {s : SearchState} {cmd : Command}
    (h : (c.apply s cmd).2 = true → cmd.changesSelection = false) :
    c.compileQuery (c.apply s cmd).1 = c.compileQuery s := by
  cases hchanged : (c.apply s cmd).2 with
  | false => rw [apply_eq_self hchanged]
  | true =>
    obtain ⟨page, sort, heq⟩ := exists_page_sort c s (h hchanged)
    rw [heq]
    exact compileQuery_page_sort c s page sort

end Config

end FacetedSearch
