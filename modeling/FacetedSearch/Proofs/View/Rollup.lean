import FacetedSearch.Proofs.View.Nodes
import Mathlib.Algebra.BigOperators.Group.Finset.Piecewise
import Mathlib.Data.List.Forall2

/-!
# Counts in a tree

Rolling up gives each leaf the count of its value and each branch the counts of its leaves together.  Only the counts
of leaves are read, and as no value is a leaf twice, each of them is counted once.

* `Counted`: the counts that the nodes of a tree carry.
* `lastCount_of_mem`, `lastCount_of_not_mem`: the count of a value, and of one that has none.
* `rollupList_congr`: only the counts of leaves matter.
* `sum_lastCount`: what some values count together, added up over the counts.
* `rollup_counts_once`: what the nodes carry, and what the top level adds up to.
-/

namespace FacetedSearch

/-! ### The count of a value -/

theorem lastCount_cons (e : String × Nat) (counts : List (String × Nat)) (l : String) :
    lastCount (e :: counts) l =
      if l ∈ counts.map Prod.fst then lastCount counts l else if e.1 = l then e.2 else 0 := by
  have hfound : (counts.reverse.find? (·.1 == l)).isSome ↔ l ∈ counts.map Prod.fst := by simp
  rw [lastCount, lastCount, List.reverse_cons, List.find?_append]
  by_cases hl : l ∈ counts.map Prod.fst
  · obtain ⟨d, hd⟩ := Option.isSome_iff_exists.1 (hfound.2 hl)
    rw [if_pos hl, hd, Option.some_or]
  · have hnone := Option.not_isSome_iff_eq_none.1 fun h => hl (hfound.1 h)
    rw [if_neg hl, hnone, Option.none_or]
    by_cases he : e.1 = l <;> simp [he]

theorem lastCount_of_not_mem {counts : List (String × Nat)} {l : String} (h : l ∉ counts.map Prod.fst) :
    lastCount counts l = 0 := by
  induction counts with
  | nil => rfl
  | cons e counts ih =>
    obtain ⟨hne, hl⟩ := not_or.1 (fun hmem => h (List.mem_cons.2 hmem))
    rw [lastCount_cons, if_neg hl, if_neg (Ne.symm hne)]

theorem lastCount_of_mem {counts : List (String × Nat)} (hnodup : (counts.map Prod.fst).Nodup) {l : String} {n : Nat}
    (h : (l, n) ∈ counts) : lastCount counts l = n := by
  induction counts with
  | nil => cases h
  | cons e counts ih =>
    obtain ⟨hnew, hrest⟩ := List.nodup_cons.1 hnodup
    rw [lastCount_cons]
    rcases List.mem_cons.1 h with rfl | h
    · rw [if_neg hnew, if_pos rfl]
    · rw [if_pos (List.mem_map.2 ⟨(l, n), h, rfl⟩), ih hrest h]

/-- What some values count together, when no value has two counts. -/
theorem sum_lastCount {counts : List (String × Nat)} (hnodup : (counts.map Prod.fst).Nodup) (values : Finset String) :
    ∑ l ∈ values, lastCount counts l = ((counts.filter (·.1 ∈ values)).map Prod.snd).sum := by
  induction counts with
  | nil => exact Finset.sum_const_zero
  | cons e counts ih =>
    obtain ⟨hnew, hrest⟩ := List.nodup_cons.1 hnodup
    have hcount : ∀ l, lastCount (e :: counts) l = (if e.1 = l then e.2 else 0) + lastCount counts l := by
      intro l
      rw [lastCount_cons]
      by_cases hl : l ∈ counts.map Prod.fst
      · have hne : e.1 ≠ l := fun he => hnew (he ▸ hl)
        rw [if_pos hl, if_neg hne, Nat.zero_add]
      · rw [if_neg hl, lastCount_of_not_mem hl, Nat.add_zero]
    simp only [hcount, Finset.sum_add_distrib, Finset.sum_ite_eq, ih hrest]
    by_cases he : e.1 ∈ values <;> simp [he]

/-! ### The counts of nodes -/

namespace ValueTree

/-- A counted tree has the nodes of a hierarchy.  A leaf carries the count of its value, and a branch the counts of the
leaves below it together. -/
inductive Counted (counts : List (String × Nat)) : ValueTree → CountedTree → Prop
  | leaf (l : String) : Counted counts (.node l []) (.node l (lastCount counts l) [])
  | branch {l : String} {t : ValueTree} {ts : List ValueTree} {ds : List CountedTree}
      (h : List.Forall₂ (Counted counts) (t :: ts) ds) :
      Counted counts (.node l (t :: ts)) (.node l ((leavesList (t :: ts)).map (lastCount counts)).sum ds)

mutual

theorem counted_rollup (counts : List (String × Nat)) : ∀ t : ValueTree, Counted counts t (t.rollup counts)
  | .node l [] => .leaf l
  | .node l (t :: ts) => by
    rw [rollup_eq, total, leaves]
    exact .branch (counted_rollupList counts (t :: ts))

theorem counted_rollupList (counts : List (String × Nat)) :
    ∀ ts : List ValueTree, List.Forall₂ (Counted counts) ts (rollupList counts ts)
  | [] => .nil
  | t :: ts => .cons (counted_rollup counts t) (counted_rollupList counts ts)

end

section

variable {counts counts' : List (String × Nat)}

mutual

theorem rollup_congr : ∀ t : ValueTree, (∀ l ∈ t.leaves, lastCount counts' l = lastCount counts l) →
    t.rollup counts' = t.rollup counts
  | .node l ts, h => by
    have hbelow := rollupList_congr ts fun v hv => h v ((leavesList_children_sublist (.node l ts)).subset hv)
    rw [rollup_eq, rollup_eq, total, total, List.map_congr_left h, children, hbelow]

/-- Only the counts of leaves matter. -/
theorem rollupList_congr : ∀ ts : List ValueTree, (∀ l ∈ leavesList ts, lastCount counts' l = lastCount counts l) →
    rollupList counts' ts = rollupList counts ts
  | [], _ => rfl
  | t :: ts, h => by
    obtain ⟨hfirst, hrest⟩ := List.forall_mem_append.1 h
    rw [rollupList, rollupList, rollup_congr t hfirst, rollupList_congr ts hrest]

end

end

end ValueTree

open ValueTree in
/-- Each node of a tree carries the counts of its leaves together, where a value without a count has the count zero, and
counts of other values change nothing.  When the leaves are distinct, as they are in a merged configuration, the top
level adds up to the counts of the values that are leaves, each of them once. -/
theorem rollup_counts_once (counts : List (String × Nat)) (ts : List ValueTree) :
    let top := ((rollupList counts ts).map CountedTree.count).sum
    List.Forall₂ (Counted counts) ts (rollupList counts ts) ∧
      ((counts.map Prod.fst).Nodup → ∀ l n, (l, n) ∈ counts → lastCount counts l = n) ∧
      (∀ l, l ∉ counts.map Prod.fst → lastCount counts l = 0) ∧
      (∀ counts', (∀ l ∈ leavesList ts, lastCount counts' l = lastCount counts l) →
        rollupList counts' ts = rollupList counts ts) ∧
      ((leavesList ts).Nodup →
        top = ∑ l ∈ (leavesList ts).toFinset, lastCount counts l ∧
          ((counts.map Prod.fst).Nodup → top = ((counts.filter (·.1 ∈ leavesList ts)).map Prod.snd).sum)) ∧
      ∀ files c field, Config.merge files = .ok c → c.hierarchy? field = some ts → (leavesList ts).Nodup := by
  intro top
  refine ⟨counted_rollupList counts ts, fun hcounts l n => lastCount_of_mem hcounts, fun l => lastCount_of_not_mem,
    fun counts' => rollupList_congr ts, ?_, fun files c field hmerge hts => Config.nodup_leaves_of_merge hmerge hts⟩
  intro hleaves
  have htop : top = ∑ l ∈ (leavesList ts).toFinset, lastCount counts l := by
    rw [List.sum_toFinset _ hleaves]
    exact sum_rollupList counts ts
  refine ⟨htop, fun hcounts => ?_⟩
  rw [htop, sum_lastCount hcounts]
  simp only [List.mem_toFinset]

open ValueTree in
/-- Of the counts, one belongs to no node at all and one to a branch. -/
theorem fruit_counted_once :
    let ts : List ValueTree := [.node "Fruit" [.leaf "Apple", .node "Citrus" [.leaf "Lime"]], .leaf "Other"]
    let c : Config := { facets := [{ field := "food" }], hierarchies := [("food", ts)], root := some "" }
    let counts := [("Kiwi", 9), ("Lime", 5), ("Citrus", 2), ("Apple", 3), ("Other", 4)]
    Config.merge [⟨"search.toml", {
        facets := some [{ field := some "food" }]
        hierarchies := [("food", .table [
          ("Fruit", .arr [.str "Apple", .table [("Citrus", .str "Lime")]]), ("Other", .arr [])])] }⟩] = .ok c ∧
      c.hierarchy? "food" = some ts ∧ (leavesList ts).Nodup ∧ (counts.map Prod.fst).Nodup ∧
      (rollupList counts ts).map CountedTree.count = [8, 4] ∧
      ((rollupList counts ts).map CountedTree.count).sum =
        ((counts.filter (·.1 ∈ leavesList ts)).map Prod.snd).sum ∧
      rollupList [("Apple", 3), ("Lime", 5), ("Other", 4)] ts = rollupList counts ts := by
  intro ts c counts
  have hmerge : Config.merge [⟨"search.toml", {
      facets := some [{ field := some "food" }]
      hierarchies := [("food", .table [
        ("Fruit", .arr [.str "Apple", .table [("Citrus", .str "Lime")]]), ("Other", .arr [])])] }⟩] = .ok c := by rfl
  obtain ⟨-, -, -, hsame, htop, hmerged⟩ := rollup_counts_once counts ts
  have hleaves : (leavesList ts).Nodup := hmerged _ c "food" hmerge rfl
  have hcounts : (counts.map Prod.fst).Nodup := by decide
  exact ⟨hmerge, rfl, hleaves, hcounts, by decide, (htop hleaves).2 hcounts, hsame _ (by decide)⟩

end FacetedSearch
