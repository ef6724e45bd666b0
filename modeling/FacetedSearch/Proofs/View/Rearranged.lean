import FacetedSearch.Proofs.Compile.SameQuery
import FacetedSearch.Proofs.View.Contents
import FacetedSearch.Proofs.View.Preorder

/-!
# Views up to order

An order only says in which sequence a view lists its values or nodes.  What is listed depends on the counts, on the
hierarchy and, for a list, on the values that were shown before; so the same views are made, up to the sequence, by
configurations that differ in orders alone.

* `FacetView.Rearranged`: two views hold the same values with the same counts, or the same nodes.
* `gatherValues_perm`: only the values that were shown before count, and of these only those that are not listed.
* `flatten_perm`: the rows of a tree in another order.
* `rearranged_aggregate`: the same counts give the same views up to order.
* `rearranged_again`: views that are made anew from themselves stay the same up to order.
-/

namespace FacetedSearch

/-- A value and its count. -/
def FacetValue.counted (x : FacetValue) : String × Nat := (x.value, x.count)

/-- The place of a row in its hierarchy, whether it is a leaf, and its count. -/
def TreeRow.counted (r : TreeRow) : List String × Bool × Nat := (r.path, r.leaf, r.count)

/-- The same values with the same counts in any order, or the same nodes with the same counts in any order. -/
inductive FacetEntries.Rearranged : FacetEntries → FacetEntries → Prop
  | flat {vs ws : List FacetValue} (h : (vs.map FacetValue.counted).Perm (ws.map FacetValue.counted)) :
    Rearranged (.flat vs) (.flat ws)
  | tree {rs qs : List TreeRow} (h : (rs.map TreeRow.counted).Perm (qs.map TreeRow.counted)) :
    Rearranged (.tree rs) (.tree qs)

/-- Two views of one facet that hold the same, in any order. -/
structure FacetView.Rearranged (v w : FacetView) : Prop where
  field : w.field = v.field
  label : w.label = v.label
  entries : v.entries.Rearranged w.entries

namespace FacetView.Rearranged

theorem refl (v : FacetView) : v.Rearranged v := by
  refine ⟨rfl, rfl, ?_⟩
  cases v.entries with
  | flat vs => exact .flat (.refl _)
  | tree rs => exact .tree (.refl _)

variable {v w : FacetView}

theorem counted (h : v.Rearranged w) : (v.values.map FacetValue.counted).Perm (w.values.map FacetValue.counted) := by
  have hentries := h.entries
  rw [FacetView.values, FacetView.values]
  generalize v.entries = es at hentries
  generalize w.entries = fs at hentries
  cases hentries with
  | flat hperm => exact hperm
  | tree _ => exact .refl _

/-- Views that hold the same show the same values. -/
theorem shown (h : v.Rearranged w) {x : String} :
    (∃ a ∈ v.values, a.value = x) ↔ ∃ a ∈ w.values, a.value = x := by
  have hvalues := h.counted.map Prod.fst
  rw [List.map_map, List.map_map] at hvalues
  simpa only [List.mem_map, Function.comp_apply] using! hvalues.mem_iff (a := x)

end FacetView.Rearranged

/-! ### The rows of a tree -/

theorem ValueOrder.sortSiblings_perm (o : ValueOrder) (groups : List (TreeRow × List TreeRow)) :
    (o.sortSiblings groups).Perm groups := by
  cases o with
  | term => exact .refl _
  | reverseTerm => exact List.reverse_perm groups
  | count | reverseCount => exact List.mergeSort_perm _ _

/-- The rows of siblings, put together without sorting. -/
theorem joinRows_perm (o : ValueOrder) (groups : List (TreeRow × List TreeRow)) :
    (joinRows o groups).Perm (groups.flatMap fun g => g.1 :: g.2) :=
  (o.sortSiblings_perm groups).flatMap_right _

namespace CountedTree

variable {o o' : ValueOrder} {hideZero hideZero' : Bool} {ts : List CountedTree}

/-- Two orders list the same rows of some trees, wherever the trees stand. -/
private def SameRows (o o' : ValueOrder) (hideZero hideZero' : Bool) (ts : List CountedTree) : Prop :=
  ∀ above, ((joinRows o (groupsOf o hideZero above ts)).map TreeRow.counted).Perm
    ((joinRows o' (groupsOf o' hideZero' above ts)).map TreeRow.counted)

private theorem sameRows_of_children (h : ∀ t ∈ ts, SameRows o o' hideZero hideZero' t.children) :
    SameRows o o' hideZero hideZero' ts := by
  intro above
  refine ((joinRows_perm ..).map _).trans (.trans ?_ ((joinRows_perm ..).map _).symm)
  rw [groupsOf_eq_map, groupsOf_eq_map, List.flatMap_map, List.flatMap_map, List.map_flatMap, List.map_flatMap]
  refine List.Perm.flatMap (.refl ts) fun t ht => ?_
  rw [rowsOf_eq, rowsOf_eq, List.map_cons, List.map_cons]
  exact (h t ht _).cons _

mutual

private theorem sameRows_children (o o' : ValueOrder) (hideZero hideZero' : Bool) :
    ∀ t : CountedTree, SameRows o o' hideZero hideZero' t.children
  | .node _ _ ts => sameRows_of_children (sameRows_each o o' hideZero hideZero' ts)

private theorem sameRows_each (o o' : ValueOrder) (hideZero hideZero' : Bool) :
    ∀ ts : List CountedTree, ∀ t ∈ ts, SameRows o o' hideZero hideZero' t.children
  | [] => List.forall_mem_nil _
  | t :: ts => List.forall_mem_cons.2
    ⟨sameRows_children o o' hideZero hideZero' t, sameRows_each o o' hideZero hideZero' ts⟩

end

/-- The rows of trees in two orders, visible or not. -/
theorem flatten_perm (o o' : ValueOrder) (hideZero hideZero' : Bool) (ts : List CountedTree) :
    ((flatten o hideZero ts).map TreeRow.counted).Perm ((flatten o' hideZero' ts).map TreeRow.counted) :=
  sameRows_of_children (sameRows_each o o' hideZero hideZero' ts) []

end CountedTree

/-- Facets that differ in their orders alone have one field. -/
theorem Facet.field_eq_of_unordered {f g : Facet} (h : g.unordered = f.unordered) : g.field = f.field := by
  have hfield : g.unordered.field = f.unordered.field := congrArg Facet.field h
  exact hfield

namespace Config

variable {c d : Config}

/-! ### The values of a list -/

theorem lists_iff_mem_listed {n : FacetCounts} {v : String} :
    n.Lists c.search.addUndefined v ↔ v ∈ (n.listed c.search.addUndefined).map Prod.fst := by
  rw [← exists_mem_gatherValues_nil_iff, gatherValues_nil, List.mem_map]
  constructor
  · rintro ⟨k, hk⟩
    exact ⟨_, hk, rfl⟩
  · rintro ⟨x, hx, rfl⟩
    exact ⟨x.2, hx⟩

/-- The values that come in with a count of zero: those shown before that the counts do not list. -/
theorem exists_zeros (counts : FacetCounts) (previous : List FacetValue) :
    ∃ zeros : List String, c.gatherValues counts previous = counts.listed c.search.addUndefined ++ zeros.map (·, 0) ∧
      zeros.Nodup ∧ ∀ v, v ∈ zeros ↔ ¬ counts.Lists c.search.addUndefined v ∧ ∃ x ∈ previous, x.value = v := by
  obtain ⟨zeros, heq, hnodup, hnew⟩ := gatherValues_eq c counts previous
  refine ⟨zeros, heq, hnodup, fun v => ?_⟩
  have hgathered : (v, 0) ∈ c.gatherValues counts previous ↔ _ := mem_gatherValues_iff
  have hzero : (v, 0) ∈ zeros.map (·, 0) ↔ v ∈ zeros := by simp
  rw [heq, gatherValues_nil, List.mem_append, hzero] at hgathered
  rw [lists_iff_mem_listed]
  constructor
  · intro hv
    rcases hgathered.1 (Or.inr hv) with hlisted | ⟨-, -, hshown⟩
    · exact absurd (List.mem_map.2 ⟨_, hlisted, rfl⟩) (hnew v hv)
    · exact ⟨hnew v hv, hshown⟩
  · rintro ⟨hunlisted, hshown⟩
    have habsent : ∀ n, (v, n) ∉ counts.listed c.search.addUndefined :=
      fun n hn => hunlisted (List.mem_map.2 ⟨_, hn, rfl⟩)
    exact (hgathered.2 (Or.inr ⟨rfl, habsent, hshown⟩)).resolve_left (habsent 0)

/-- Of the values that were shown before, only those that the counts do not list have a part in what is gathered. -/
theorem gatherValues_perm {counts : FacetCounts} {previous previous' : List FacetValue}
    (h : ∀ v, ¬ counts.Lists c.search.addUndefined v →
      ((∃ x ∈ previous, x.value = v) ↔ ∃ x ∈ previous', x.value = v)) :
    (c.gatherValues counts previous).Perm (c.gatherValues counts previous') := by
  obtain ⟨zeros, heq, hnodup, hmem⟩ := exists_zeros (c := c) counts previous
  obtain ⟨zeros', heq', hnodup', hmem'⟩ := exists_zeros (c := c) counts previous'
  rw [heq, heq']
  refine .append_left _ (.map _ ((List.perm_ext_iff_of_nodup hnodup hnodup').2 fun v => ?_))
  rw [hmem, hmem']
  exact and_congr_right (h v)

theorem flatValues_counted (counts : FacetCounts) (previous : List FacetValue) (o : ValueOrder) (hideZero : Bool) :
    ((c.flatValues counts previous o hideZero).map FacetValue.counted).Perm (c.gatherValues counts previous) := by
  refine ((o.sortValues_perm _).map _).trans (.of_eq ?_)
  rw [List.map_map]
  exact List.map_id _

/-! ### Views -/

/-- Two facets that differ in their orders alone give views that hold the same, whatever the modes, if the same values
were shown before. -/
theorem rearranged_view (h : c.Reordered d) {f g : Facet} (hfg : g.unordered = f.unordered) {counts : FacetCounts}
    {l l' : Logic} {p q : Option FacetView}
    (hshown : c.hierarchy? f.field = none → ∀ v, ¬ counts.Lists c.search.addUndefined v →
      ((∃ w ∈ p, ∃ x ∈ w.values, x.value = v) ↔ ∃ w ∈ q, ∃ x ∈ w.values, x.value = v)) :
    (c.view f counts l p).Rearranged (d.view g counts l' q) := by
  have hfield := Facet.field_eq_of_unordered hfg
  have hlabel : g.unordered.label = f.unordered.label := congrArg Facet.label hfg
  obtain ⟨facets, -, rfl⟩ := h
  refine ⟨hfield, hlabel, ?_⟩
  have hsame : hierarchy? { c with facets } g.field = c.hierarchy? f.field := by rw [hfield, hierarchy?, hierarchy?]
  cases htree : c.hierarchy? f.field with
  | some ts =>
    rw [htree] at hsame
    simp only [view, htree, hsame]
    exact .tree (CountedTree.flatten_perm ..)
  | none =>
    rw [htree] at hsame
    simp only [view, htree, hsame]
    refine .flat ((flatValues_counted ..).trans (.trans ?_ (flatValues_counted ..).symm))
    refine gatherValues_perm fun v hunlisted => ?_
    have hvalues : ∀ p : Option FacetView, (∃ x ∈ (p.map FacetView.values).getD [], x.value = v) ↔
        ∃ w ∈ p, ∃ x ∈ w.values, x.value = v := by
      intro p
      cases p <;> simp
    rw [hvalues, hvalues]
    exact hshown htree v hunlisted

/-- The facets of configurations that differ in orders alone. -/
theorem Reordered.facets (h : c.Reordered d) :
    List.Forall₂ (fun f g => g.unordered = f.unordered) c.facets d.facets := by
  obtain ⟨facets, hfacets, rfl⟩ := h
  have hsame : List.Forall₂ Eq (facets.map Facet.unordered) (c.facets.map Facet.unordered) :=
    List.forall₂_eq_eq_eq ▸ hfacets
  exact (List.forall₂_map_right_iff.1 (List.forall₂_map_left_iff.1 hsame)).flip

/-- Views of all facets hold the same, whatever the states, if the same values of each facet were shown before. -/
theorem rearranged_of_shown (h : c.Reordered d) {counts : Entries FacetCounts} {s s' : SearchState}
    {previous previous' : List FacetView}
    (hshown : ∀ f ∈ c.facets, c.hierarchy? f.field = none → ∀ v,
      ¬ ((counts.get? f.field).getD {}).Lists c.search.addUndefined v →
      ((∃ w ∈ previous.find? (·.field == f.field), ∃ x ∈ w.values, x.value = v) ↔
        ∃ w ∈ previous'.find? (·.field == f.field), ∃ x ∈ w.values, x.value = v)) :
    List.Forall₂ FacetView.Rearranged (c.aggregate counts s previous) (d.aggregate counts s' previous') := by
  rw [aggregate, aggregate, List.forall₂_map_left_iff, List.forall₂_map_right_iff]
  refine ((List.forall₂_and_left c.facets d.facets).2 ⟨fun _ hf => hf, h.facets⟩).imp ?_
  rintro f g ⟨hf, hfg⟩
  rw [Facet.field_eq_of_unordered hfg]
  exact rearranged_view h hfg (hshown f hf)

/-- The same counts give the same views up to order, when the views before were the same up to order. -/
theorem rearranged_aggregate (h : c.Reordered d) (counts : Entries FacetCounts) (s s' : SearchState)
    {previous previous' : List FacetView} (hviews : List.Forall₂ FacetView.Rearranged previous previous') :
    List.Forall₂ FacetView.Rearranged (c.aggregate counts s previous) (d.aggregate counts s' previous') := by
  refine rearranged_of_shown h fun f _ _ v _ => ?_
  induction hviews with
  | nil => exact Iff.rfl
  | @cons v w vs ws hvw _ ih =>
    rw [List.find?_cons, List.find?_cons, hvw.field]
    split
    · simpa using hvw.shown
    · exact ih

/-- Views that are made anew from themselves, with other orders or in another state, are the same up to order. -/
theorem rearranged_again (h : c.Reordered d) (counts : Entries FacetCounts) (s s' : SearchState)
    (previous : List FacetView) :
    List.Forall₂ FacetView.Rearranged (c.aggregate counts s previous)
      (d.aggregate counts s' (c.aggregate counts s previous)) := by
  refine rearranged_of_shown h fun f hf hflat v hunlisted => ?_
  obtain ⟨w, hw⟩ : ∃ w, (c.aggregate counts s previous).find? (·.field == f.field) = some w := by
    rw [← Option.isSome_iff_exists, List.find?_isSome]
    exact ⟨_, List.mem_map.2 ⟨f, hf, rfl⟩, beq_iff_eq.2 rfl⟩
  obtain ⟨hmem, hfield⟩ := mem_of_find?_field hw
  have hvalues := mem_values_aggregate_iff (r := ⟨counts, s⟩) hmem (by rw [hfield]; exact hflat) (v := v)
  rw [hfield] at hvalues
  simp only [hw, Option.mem_def, Option.some.injEq, exists_eq_left']
  rw [hvalues]
  exact (or_iff_right hunlisted).symm

end Config

end FacetedSearch
