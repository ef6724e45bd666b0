import FacetedSearch.Compile
import FacetedSearch.Proofs.Config.Prefixes

/-!
# In which order prefixes are declared

The declared prefixes are only ever asked for the one that a key belongs to, and that one is the same for any list with
the same members.  So neither their order nor their number shows in a document.

* `nestedPrefix_eq_of_same_members`: the prefix of a key depends on which prefixes are declared, and on nothing else.
* `compile_eq_of_nestedPrefix`: all that a document depends on is the prefix of each key.
* `prefixes_in_any_order`: which prefix a key has, and that neither it nor a document changes with the list.
-/

namespace FacetedSearch

namespace Config

variable {c : Config} {ns : List String}

theorem nestedPrefix_eq_of_same_members (h : ∀ p, p ∈ ns ↔ p ∈ c.nested) (key : String) :
    { c with nested := ns }.nestedPrefix key = c.nestedPrefix key := by
  apply Option.ext
  intro p
  rw [nestedPrefix_eq_some_iff_lowest, nestedPrefix_eq_some_iff_lowest]
  simp only [h]

section

variable (h : ∀ key, { c with nested := ns }.nestedPrefix key = c.nestedPrefix key)

include h

private theorem placeFor_eq_of_nestedPrefix (key : String) (place : Place) :
    { c with nested := ns }.placeFor key place = c.placeFor key place := by
  rw [placeFor, placeFor, h]

private theorem placeSelections_eq_of_nestedPrefix (s : SearchState) (seen : List String) (xs : List Selection) :
    { c with nested := ns }.placeSelections s seen xs = c.placeSelections s seen xs := by
  induction xs generalizing seen with
  | nil => rfl
  | cons x xs ih => simp only [placeSelections, placeOfAnd, placeFor_eq_of_nestedPrefix h, ih]

private theorem placed_eq_of_nestedPrefix (s : SearchState) : { c with nested := ns }.placed s = c.placed s := by
  simp only [placed, placeRanges, placeFilters, freeTextClause?, placeSelections_eq_of_nestedPrefix h,
    placeFor_eq_of_nestedPrefix h]

private theorem facetRequests_eq_of_nestedPrefix (q : Clause) :
    { c with nested := ns }.facetRequests q = c.facetRequests q := by
  simp only [facetRequests, facetRequest, h]

theorem compile_eq_of_nestedPrefix (s : SearchState) : { c with nested := ns }.compile s = c.compile s := by
  have hquery : { c with nested := ns }.compileQuery s = c.compileQuery s := by
    rw [compileQuery, compileQuery, placed_eq_of_nestedPrefix h]
  simp only [compile, hquery, facetRequests_eq_of_nestedPrefix h]

end

/-- A key has the declared prefix that stands under all others that the key stands under, if it stands under any.  In
a list with the same members, in another order or more often, each key has the same prefix, and each state the same
document. -/
theorem prefixes_in_any_order (h : ∀ p, p ∈ ns ↔ p ∈ c.nested) :
    (∀ key p, c.nestedPrefix key = some p ↔
      p ∈ c.nested ∧ StandsUnder key p ∧ ∀ q ∈ c.nested, StandsUnder key q → StandsUnder p q) ∧
    (∀ key, c.nestedPrefix key = none ↔ ∀ p ∈ c.nested, ¬ StandsUnder key p) ∧
    (∀ key, { c with nested := ns }.nestedPrefix key = c.nestedPrefix key) ∧
    ∀ s, { c with nested := ns }.compile s = c.compile s := by
  have hsame := nestedPrefix_eq_of_same_members h
  refine ⟨fun key p => nestedPrefix_eq_some_iff_lowest, fun key => ?_, hsame, compile_eq_of_nestedPrefix hsame⟩
  rw [nestedPrefix_eq_none_iff]
  refine forall₂_congr fun p _ => ?_
  rw [← isUnder_iff, Bool.not_eq_true]

private def overlapping : Config := { nested := ["stats", "statsx", "stats.inner"] }

private def overlappingTwice : Config := { nested := ["stats.inner", "stats", "stats.inner", "statsx"] }

/-- Prefixes that begin each other, in another order and one of them twice. -/
theorem overlapping_prefixes_reordered :
    (∀ p, p ∈ overlappingTwice.nested ↔ p ∈ overlapping.nested) ∧
      overlappingTwice.nestedPrefix "stats.inner.year" = some "stats.inner" ∧
      ∀ s, overlappingTwice.compile s = overlapping.compile s := by
  have hsame : ∀ p, p ∈ overlappingTwice.nested ↔ p ∈ overlapping.nested := by
    intro p
    simp only [overlappingTwice, overlapping, List.mem_cons, List.not_mem_nil, or_false]
    grind
  obtain ⟨-, -, hfound, hcompile⟩ := prefixes_in_any_order hsame
  refine ⟨hsame, ?_, hcompile⟩
  exact (hfound "stats.inner.year").trans (by decide +kernel)

end Config

end FacetedSearch
