import FacetedSearch.Proofs.Config.Siblings
import FacetedSearch.Proofs.Selection.Coherent
import FacetedSearch.Proofs.Selection.Unchanged
import FacetedSearch.View
import Mathlib.Algebra.Ring.Nat

/-!
# The rows of a tree view

A tree view has one row for each node of its hierarchy, with the counts of the leaves below the node added up.  A row
knows the labels that lead to its node, and these lead back to it when no two siblings have one label.

* `mem_rows_iff`: the rows of a view are those of the nodes, at the places where they stand.
* `isSelected_selectNode`: what selecting a node selects.
* `rows_lead_back_iff`: the paths of all rows lead back to what the rows show just when no two siblings share a label.
* `row_without_node`: two siblings with one label.
-/

namespace FacetedSearch

/-- The rows of a tree; a list has none. -/
def FacetView.rows (v : FacetView) : List TreeRow :=
  match v.entries with
  | .tree rows => rows
  | .flat _ => []

namespace ValueTree

/-- The counts of all leaves at or below a node together. -/
def total (counts : List (String × Nat)) (t : ValueTree) : Nat := (t.leaves.map (lastCount counts)).sum

/-- The row of a node that stands below the labels of a path. -/
def row (counts : List (String × Nat)) (hideZero : Bool) (above : List String) (t : ValueTree) : TreeRow where
  label := t.label
  count := t.total counts
  above
  leaf := t.isLeaf
  visible := !(hideZero && t.total counts == 0)

/-! ### Counting -/

section

variable (counts : List (String × Nat))

mutual

theorem count_rollup : ∀ t : ValueTree, (t.rollup counts).count = t.total counts
  | .node l [] => by
    show lastCount counts l = total counts (.node l [])
    simp [total, leaves]
  | .node _ (t :: ts) => by
    show ((rollupList counts (t :: ts)).map CountedTree.count).sum = _
    rw [total, leaves]
    exact sum_rollupList (t :: ts)

theorem sum_rollupList : ∀ ts : List ValueTree,
    ((rollupList counts ts).map CountedTree.count).sum = ((leavesList ts).map (lastCount counts)).sum
  | [] => rfl
  | t :: ts => by
    rw [rollupList, List.map_cons, List.sum_cons, count_rollup t, sum_rollupList ts, leavesList, List.map_append,
      List.sum_append, total]

end

theorem rollup_eq (t : ValueTree) :
    t.rollup counts = .node t.label (t.total counts) (rollupList counts t.children) := by
  rw [← count_rollup]
  obtain ⟨l, cs⟩ := t
  cases cs <;> rfl

theorem isEmpty_rollupList (ts : List ValueTree) : (rollupList counts ts).isEmpty = ts.isEmpty := by
  cases ts <;> rfl

end

end ValueTree

/-! ### Rows -/

theorem mem_joinRows {o : ValueOrder} {groups : List (TreeRow × List TreeRow)} {r : TreeRow} :
    r ∈ joinRows o groups ↔ ∃ g ∈ groups, r = g.1 ∨ r ∈ g.2 := by
  have hsorted : ∀ g, g ∈ o.sortSiblings groups ↔ g ∈ groups := by
    intro g
    cases o with
    | term => exact Iff.rfl
    | reverseTerm => exact List.mem_reverse
    | count | reverseCount => exact List.mem_mergeSort
  simp only [joinRows, List.mem_flatMap, hsorted, List.mem_cons]

theorem mem_joinRows_cons {o : ValueOrder} {g : TreeRow × List TreeRow} {groups : List (TreeRow × List TreeRow)}
    {r : TreeRow} : r ∈ joinRows o (g :: groups) ↔ r = g.1 ∨ r ∈ g.2 ∨ r ∈ joinRows o groups := by
  simp only [mem_joinRows, List.mem_cons, exists_eq_or_imp, or_assoc]

namespace CountedTree

variable {o : ValueOrder} {hideZero : Bool}

theorem rowsOf_rollup (counts : List (String × Nat)) (above : List String) (t : ValueTree) :
    rowsOf o hideZero above (t.rollup counts) =
      (t.row counts hideZero above,
        joinRows o (groupsOf o hideZero (above ++ [t.label]) (ValueTree.rollupList counts t.children))) := by
  rw [t.rollup_eq, rowsOf, ValueTree.isEmpty_rollupList]
  rfl

mutual

/-- The rows below a node are those of the nodes below it. -/
private theorem mem_rows_below {counts : List (String × Nat)} {r : TreeRow} : ∀ (t : ValueTree) (above : List String),
    r ∈ joinRows o (groupsOf o hideZero above (ValueTree.rollupList counts t.children)) ↔
      ∃ p u, ValueTree.StandsBelow t.children p u ∧ r = u.row counts hideZero (above ++ p)
  | .node _ cs, above => mem_rows_list cs above

private theorem mem_rows_list {counts : List (String × Nat)} {r : TreeRow} :
    ∀ (ts : List ValueTree) (above : List String),
    r ∈ joinRows o (groupsOf o hideZero above (ValueTree.rollupList counts ts)) ↔
      ∃ p u, ValueTree.StandsBelow ts p u ∧ r = u.row counts hideZero (above ++ p)
  | [], above => by
    rw [mem_joinRows]
    constructor
    · rintro ⟨g, hg, -⟩
      cases hg
    · rintro ⟨p, u, hu, -⟩
      cases p with
      | nil => cases hu
      | cons l p =>
        obtain ⟨w, hw, -⟩ := hu
        cases hw
  | t :: ts, above => by
    rw [ValueTree.rollupList, groupsOf, rowsOf_rollup, mem_joinRows_cons, mem_rows_below t, mem_rows_list ts]
    simp only [ValueTree.standsBelow_cons]
    constructor
    · rintro (rfl | ⟨p, u, hu, rfl⟩ | ⟨p, u, hu, rfl⟩)
      · exact ⟨[], t, Or.inl ⟨rfl, rfl⟩, by rw [List.append_nil]⟩
      · exact ⟨t.label :: p, u, Or.inr (Or.inl ⟨p, rfl, hu⟩), by rw [List.append_assoc, List.singleton_append]⟩
      · exact ⟨p, u, Or.inr (Or.inr hu), rfl⟩
    · rintro ⟨_, u, ⟨rfl, rfl⟩ | ⟨p, rfl, hu⟩ | hu, rfl⟩
      · exact Or.inl (by rw [List.append_nil])
      · exact Or.inr (Or.inl ⟨p, u, hu, by rw [List.append_assoc, List.singleton_append]⟩)
      · exact Or.inr (Or.inr ⟨_, u, hu, rfl⟩)

end

end CountedTree

/-- The rows of a tree view, one for each node. -/
theorem Config.mem_rows_iff {c : Config} {f : Facet} {ts : List ValueTree} (hts : c.hierarchy? f.field = some ts)
    {counts : FacetCounts} {l : Logic} {previous : Option FacetView} {r : TreeRow} :
    r ∈ (c.view f counts l previous).rows ↔
      ∃ above t, ValueTree.StandsBelow ts above t ∧
        r = t.row counts.terms (l == .and && c.search.pruneZero) above := by
  simp only [Config.view, FacetView.rows, hts, CountedTree.flatten]
  rw [CountedTree.mem_rows_list ts []]
  simp only [List.nil_append]

/-! ### Selecting a node -/

private theorem isSelected_foldl_select {key : String} {l : Logic} (leaves : List String) (s : SearchState)
    {k : String} {w : Choice} :
    (leaves.foldl (fun s leaf => (s.select key (.ofText leaf) l).1) s).isSelected k w = true ↔
      s.isSelected k w = true ∨ k = key ∧ ∃ leaf ∈ leaves, w = .ofText leaf := by
  induction leaves generalizing s with
  | nil => simp
  | cons leaf leaves ih =>
    rw [List.foldl_cons, ih, SearchState.isSelected_select]
    simp only [List.mem_cons, exists_eq_or_imp, and_or_left, or_assoc]

/-- Selecting a node selects the leaves at or below it, and nothing else. -/
theorem Config.isSelected_selectNode {c : Config} {i : Nat} {f : Facet} {ts : List ValueTree} {path : List String}
    {t : ValueTree} (hf : c.facets[i]? = some f) (hts : c.hierarchy? f.field = some ts)
    (ht : ValueTree.find? ts path = some t) (s : SearchState) {k : String} {w : Choice} :
    (c.apply s (.selectNode i path)).1.isSelected k w = true ↔
      s.isSelected k w = true ∨ k = f.field ∧ ∃ leaf ∈ t.leaves, w = .ofText leaf := by
  have hleaves : c.nodeLeaves? i path = some (f.field, t.leaves) := by
    simp [nodeLeaves?, hf, hts, ht]
  simp only [apply, hleaves]
  rw [forEachLeaf_fst, isSelected_foldl_select]

/-! ### Rows and their nodes -/

/-- What a row shows of a node: its label, whether it is a leaf, and the counts of its leaves together. -/
structure TreeRow.Shows (r : TreeRow) (counts : List (String × Nat)) (t : ValueTree) : Prop where
  label : t.label = r.label
  leaf : t.isLeaf = r.leaf
  count : t.total counts = r.count

theorem ValueTree.shows_row (counts : List (String × Nat)) (hideZero : Bool) (above : List String) (t : ValueTree) :
    (t.row counts hideZero above).Shows counts t := ⟨rfl, rfl, rfl⟩

theorem ValueTree.path_row (counts : List (String × Nat)) (hideZero : Bool) (above : List String) (t : ValueTree) :
    (t.row counts hideZero above).path = above ++ [t.label] := rfl

/-- Counts of a single value tell which nodes have it among their leaves. -/
private theorem total_one_pos_iff {v : String} {t : ValueTree} : 0 < t.total [(v, 1)] ↔ v ∈ t.leaves := by
  have hone : ∀ l, lastCount [(v, 1)] l = if v = l then 1 else 0 := by
    intro l
    by_cases hl : v = l <;> simp [lastCount, hl]
  have hsum : ∀ ls : List String, 0 < (ls.map (lastCount [(v, 1)])).sum ↔ v ∈ ls := by
    intro ls
    induction ls with
    | nil => simp
    | cons l ls ih =>
      rw [List.map_cons, List.sum_cons, List.mem_cons, ← ih, hone]
      by_cases hl : v = l
      · rw [if_pos hl]
        exact ⟨fun _ => Or.inl hl, fun _ => by omega⟩
      · simp [hl]
  exact hsum t.leaves

/-- In a tree view of a merged configuration, each row shows a node that stands at its place.  The paths of all rows,
whatever the counts, lead to nodes that the rows show just when no two siblings have one label.  What a path leads to
stands at the place of the row in any case, and selecting it by the path selects its leaves. -/
theorem rows_lead_back_iff {sources : List Source} {c : Config} (hmerge : Config.merge sources = .ok c) {f : Facet}
    {ts : List ValueTree} (hts : c.hierarchy? f.field = some ts) :
    (∀ counts l previous, ∀ r ∈ (c.view f counts l previous).rows,
        ∃ t, ValueTree.StandsBelow ts r.above t ∧ r.Shows counts.terms t) ∧
      (ValueTree.DistinctLabels ts ↔ ∀ counts l previous, ∀ r ∈ (c.view f counts l previous).rows,
        ∃ t, ValueTree.find? ts r.path = some t ∧ r.Shows counts.terms t) ∧
      ∀ counts l previous, ∀ r ∈ (c.view f counts l previous).rows, ∀ t, ValueTree.find? ts r.path = some t →
        ValueTree.StandsBelow ts r.above t ∧ t.label = r.label ∧
          ∀ i g, c.facets[i]? = some g → g.field = f.field → ∀ (s : SearchState) k w,
            (c.apply s (.selectNode i r.path)).1.isSelected k w = true ↔
              s.isSelected k w = true ∨ k = f.field ∧ ∃ leaf ∈ t.leaves, w = .ofText leaf := by
  refine ⟨fun counts l previous r hr => ?_, ⟨fun hdistinct counts l previous r hr => ?_, fun hback => ?_⟩,
    fun counts l previous r _ t ht => ?_⟩
  · obtain ⟨above, t, ht, rfl⟩ := (Config.mem_rows_iff hts).1 hr
    exact ⟨t, ht, t.shows_row ..⟩
  · obtain ⟨above, t, ht, rfl⟩ := (Config.mem_rows_iff hts).1 hr
    rw [t.path_row]
    exact ⟨t, ValueTree.find?_of_standsBelow hdistinct ht, t.shows_row ..⟩
  · -- one count for each leaf in turn shows that the path of a node leads to all its leaves
    refine ValueTree.distinctLabels_of_found ts (Config.nodup_leaves_of_merge hmerge hts) fun above t ht => ?_
    have hrow : ∀ counts : FacetCounts,
        ∃ u, ValueTree.find? ts (above ++ [t.label]) = some u ∧ u.total counts.terms = t.total counts.terms := by
      intro counts
      obtain ⟨u, hu, hshows⟩ := hback counts .or none _ ((Config.mem_rows_iff hts).2 ⟨above, t, ht, rfl⟩)
      exact ⟨u, hu, hshows.count⟩
    obtain ⟨u, hu, -⟩ := hrow {}
    refine ⟨u, hu, fun v hv => ?_⟩
    obtain ⟨w, hw, htotal⟩ := hrow { terms := [(v, 1)] }
    cases hu.symm.trans hw
    rw [← total_one_pos_iff, htotal]
    exact total_one_pos_iff.2 hv
  · obtain ⟨hstands, hlabel⟩ := ValueTree.standsBelow_of_find? ht
    refine ⟨hstands, hlabel, fun i g hg hfield s k w => ?_⟩
    rw [← hfield] at hts ⊢
    exact Config.isSelected_selectNode hg hts ht s

/-- With distinct labels every row of a view leads back to its node. -/
theorem rows_of_distinct_labels :
    let ts : List ValueTree := [.node "Fruit" [.leaf "Apple", .node "Citrus" [.leaf "Lime"]], .leaf "Other"]
    let c : Config := { facets := [{ field := "food" }], hierarchies := [("food", ts)], root := some "" }
    Config.merge [⟨"search.toml", {
        facets := some [{ field := some "food" }]
        hierarchies := [("food", .table [
          ("Fruit", .arr [.str "Apple", .table [("Citrus", .str "Lime")]]), ("Other", .arr [])])] }⟩] = .ok c ∧
      ∀ counts l previous, ∀ r ∈ (c.view { field := "food" } counts l previous).rows,
        ∃ t, ValueTree.find? ts r.path = some t ∧ r.Shows counts.terms t := by
  intro ts c
  have hmerge : Config.merge [⟨"search.toml", {
      facets := some [{ field := some "food" }]
      hierarchies := [("food", .table [
        ("Fruit", .arr [.str "Apple", .table [("Citrus", .str "Lime")]]), ("Other", .arr [])])] }⟩] = .ok c := by rfl
  have hdistinct : ValueTree.DistinctLabels ts := by
    simp [ts, ValueTree.DistinctLabels, ValueTree.DistinctBelow, ValueTree.leaf, ValueTree.label]
  exact ⟨hmerge, (rows_lead_back_iff (f := { field := "food" }) hmerge rfl).2.1.1 hdistinct⟩

/-- An array adds the nodes of all its tables.  The view has a row for the value of the second one, but its path leads
into the first one. -/
theorem row_without_node :
    let ts : List ValueTree := [.node "Fruit" [.node "Citrus" [.leaf "Lime"], .node "Citrus" [.leaf "Lemon"]]]
    let c : Config := { facets := [{ field := "food" }], hierarchies := [("food", ts)], root := some "" }
    Config.merge [⟨"search.toml", {
        facets := some [{ field := some "food" }]
        hierarchies := [("food", .table [
          ("Fruit", .arr [.table [("Citrus", .arr [.str "Lime"])], .table [("Citrus", .arr [.str "Lemon"])]])])] }⟩] =
        .ok c ∧
      ∃ r ∈ (c.view { field := "food" } { terms := [("Lemon", 3)] } .or none).rows,
        r.path = ["Fruit", "Citrus", "Lemon"] ∧ r.count = 3 ∧ ValueTree.find? ts r.path = none :=
  ⟨by rfl, ⟨"Lemon", 3, ["Fruit", "Citrus"], true, true⟩, by decide, rfl, rfl, by rfl⟩

end FacetedSearch
