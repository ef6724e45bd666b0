import FacetedSearch.Proofs.View.Rounds
import Mathlib.Data.List.Forall2

/-!
# What a view holds

The entries of a flat view are those of its counts, each as often as it was counted, the value for missing values where
it applies, and values that count zero.  The rows of a tree view are those of the hierarchy with its counts.

* `gatherValues_eq`: the values before sorting, in three parts.
* `FacetCounts.ListedAs`: a sorted list has these three parts.
* `FacetView.Shows`: a view shows the counts of a facet.
* `shows_aggregate`: the views of all facets show their counts, whatever was shown before.
-/

namespace FacetedSearch

namespace FacetCounts

/-- The value that stands for missing values with its count, where it is wanted, counts something, and was not counted
as a value itself. -/
def bucket (n : FacetCounts) (withMissing : Bool) : List (String × Nat) :=
  if withMissing = true ∧ 0 < n.missing ∧ undefinedText ∉ n.terms.map Prod.fst then [(undefinedText, n.missing)] else []

/-- All values that the counts give by themselves. -/
def listed (n : FacetCounts) (withMissing : Bool) : List (String × Nat) := n.terms ++ n.bucket withMissing

/-- A list of values holds what the counts list, as often as they list it, and besides only other values, each of them
once and with a count of zero.  It is in order, and what counts zero may be hidden. -/
structure ListedAs (n : FacetCounts) (withMissing hideZero : Bool) (o : ValueOrder) (vs : List FacetValue) : Prop where
  entries : ∃ zeros : List String,
    (vs.map fun x => (x.value, x.count)).Perm (n.listed withMissing ++ zeros.map (·, 0)) ∧ zeros.Nodup ∧
      ∀ v ∈ zeros, v ∉ (n.listed withMissing).map Prod.fst
  sorted : vs.Pairwise fun x y => o.before (x.value, x.count) (y.value, y.count) = true
  hidden : ∀ x ∈ vs, x.visible = !(hideZero && x.count == 0)

end FacetCounts

/-- A view shows what was counted for a facet: its values in the order of the facet, or its hierarchy. -/
structure FacetView.Shows (c : Config) (counts : Entries FacetCounts) (f : Facet) (view : FacetView) : Prop where
  field : view.field = f.field
  label : view.label = f.label
  order : view.order = f.order
  flat : c.hierarchy? f.field = none → ∃ vs, view.entries = .flat vs ∧
    ((counts.get? f.field).getD {}).ListedAs c.search.addUndefined (view.logic == .and && c.search.pruneZero) f.order vs
  tree : ∀ ts, c.hierarchy? f.field = some ts → view.entries =
    .tree (CountedTree.flatten f.order (view.logic == .and && c.search.pruneZero)
      (ValueTree.rollupList ((counts.get? f.field).getD {}).terms ts))

namespace Config

variable {c : Config} {counts : FacetCounts}

/-- Carrying values over adds those that are new, once each, behind what is there. -/
private theorem foldl_carry_eq_append (previous : List FacetValue) (acc : List (String × Nat)) :
    ∃ zeros : List String,
      previous.foldl (fun acc old => if acc.any (·.1 == old.value) then acc else acc ++ [(old.value, 0)]) acc =
        acc ++ zeros.map (·, 0) ∧ zeros.Nodup ∧ ∀ v ∈ zeros, v ∉ acc.map Prod.fst := by
  induction previous generalizing acc with
  | nil => exact ⟨[], (List.append_nil acc).symm, List.nodup_nil, nofun⟩
  | cons old previous ih =>
    rw [List.foldl_cons]
    by_cases hpresent : acc.any (·.1 == old.value) = true
    · rw [if_pos hpresent]
      exact ih acc
    · rw [if_neg hpresent]
      obtain ⟨zeros, heq, hnodup, hnew⟩ := ih (acc ++ [(old.value, 0)])
      have hsplit : ∀ v ∈ zeros, v ∉ acc.map Prod.fst ∧ v ≠ old.value := by
        intro v hv
        have hv := hnew v hv
        rw [List.map_append, List.mem_append, not_or] at hv
        exact ⟨hv.1, fun h => hv.2 (List.mem_singleton.2 h)⟩
      refine ⟨old.value :: zeros, ?_, List.nodup_cons.2 ⟨fun hmem => (hsplit _ hmem).2 rfl, hnodup⟩, ?_⟩
      · rw [heq, List.append_assoc]
        rfl
      · intro v hv
        rcases List.mem_cons.1 hv with rfl | hv
        · intro hmem
          obtain ⟨x, hx, heq⟩ := List.mem_map.1 hmem
          exact hpresent (List.any_eq_true.2 ⟨x, hx, beq_iff_eq.2 heq⟩)
        · exact (hsplit v hv).1

theorem gatherValues_nil : c.gatherValues counts [] = counts.listed c.search.addUndefined := by
  have hany : counts.terms.any (·.1 == undefinedText) = decide (undefinedText ∈ counts.terms.map Prod.fst) := by
    rw [Bool.eq_iff_iff, List.any_eq_true, decide_eq_true_iff, List.mem_map]
    simp only [beq_iff_eq]
  rw [gatherValues, List.foldl_nil, FacetCounts.listed, FacetCounts.bucket, hany]
  by_cases happlies : c.search.addUndefined = true ∧ 0 < counts.missing ∧ undefinedText ∉ counts.terms.map Prod.fst
  · rw [if_pos happlies, if_pos (by simpa [and_assoc] using happlies)]
  · rw [if_neg happlies, if_neg (by simpa [and_assoc] using happlies), List.append_nil]

/-- The values before sorting: those that the counts list, and new ones that count zero. -/
theorem gatherValues_eq (c : Config) (counts : FacetCounts) (previous : List FacetValue) :
    ∃ zeros : List String, c.gatherValues counts previous = counts.listed c.search.addUndefined ++ zeros.map (·, 0) ∧
      zeros.Nodup ∧ ∀ v ∈ zeros, v ∉ (counts.listed c.search.addUndefined).map Prod.fst := by
  rw [← gatherValues_nil]
  exact foldl_carry_eq_append previous _

theorem listedAs_flatValues (c : Config) (counts : FacetCounts) (previous : List FacetValue) (o : ValueOrder)
    (hideZero : Bool) :
    counts.ListedAs c.search.addUndefined hideZero o (c.flatValues counts previous o hideZero) := by
  obtain ⟨zeros, heq, hnodup, hnew⟩ := gatherValues_eq c counts previous
  refine ⟨⟨zeros, ?_, hnodup, hnew⟩, o.pairwise_sortValues _, fun x hx => (mem_flatValues_iff.1 hx).2⟩
  rw [← heq]
  refine ((o.sortValues_perm _).map _).trans (.of_eq ?_)
  rw [List.map_map]
  exact List.map_id _

/-- A view shows the counts that it was made from, whatever was shown before. -/
theorem shows_view (c : Config) (f : Facet) (counts : Entries FacetCounts) (l : Logic) (previous : Option FacetView) :
    (c.view f ((counts.get? f.field).getD {}) l previous).Shows c counts f where
  field := rfl
  label := rfl
  order := rfl
  flat hflat := by
    refine ⟨_, ?_, listedAs_flatValues c _ ((previous.map FacetView.values).getD []) ..⟩
    simp only [view, hflat]
  tree ts htree := by simp only [view, htree]

/-- The views of all facets show their counts, in the order of the facets. -/
theorem shows_aggregate (c : Config) (counts : Entries FacetCounts) (s : SearchState) (previous : List FacetView) :
    List.Forall₂ (fun f view => view.Shows c counts f) c.facets (c.aggregate counts s previous) := by
  rw [aggregate, List.forall₂_map_right_iff, List.forall₂_same]
  exact fun f _ => shows_view c f counts _ _

end Config

end FacetedSearch
