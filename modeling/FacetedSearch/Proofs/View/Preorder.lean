import FacetedSearch.Proofs.View.Nodes
import FacetedSearch.Proofs.View.Rounds
import Mathlib.Algebra.Order.BigOperators.Group.List
import Mathlib.Algebra.Order.Group.Nat
import Mathlib.Data.List.Nodup
import Mathlib.Tactic.Choose

/-!
# Trees row by row

The rows of a tree stand depth first: each row is followed by those of all nodes below its node, and siblings stand in
the order of the view.  As several nodes may have one label, rows are told apart by the places of their nodes, which
give the index among the siblings at each level.

* `StandsAt`: the nodes of some trees with their places.
* `exists_arranged`: sorting siblings, as an arrangement of the nodes with their indices.
* `DepthFirst`: rows with places that are listed depth first.
* `DepthFirst.join`: listings below siblings, joined to one of the siblings.
* `listed`: the rows of any trees are listed depth first.
* `StandsAt.count_le`, `StandsAt.count_lt`: no node counts more than one above it, or more than a 64-bit number holds.
* `flatten_rollup`: the rows of a tree with counts added up.
-/

namespace FacetedSearch

/-- Whether a sibling stands before another one, given the index and the count of both.  Equal counts keep the order of
the configuration. -/
def ValueOrder.Precedes (o : ValueOrder) (x y : Nat × Nat) : Prop :=
  match o with
  | .term => x.1 < y.1
  | .reverseTerm => y.1 < x.1
  | .count => x.2 < y.2 ∨ x.2 = y.2 ∧ x.1 < y.1
  | .reverseCount => y.2 < x.2 ∨ x.2 = y.2 ∧ x.1 < y.1

/-- A row and the place of its node. -/
structure PlacedRow where
  place : List Nat
  row : TreeRow

namespace CountedTree

/-- The row of a node that stands below the labels of a path. -/
def row (hideZero : Bool) (above : List String) (t : CountedTree) : TreeRow where
  label := t.label
  count := t.count
  above
  leaf := t.children.isEmpty
  visible := !(hideZero && t.count == 0)

/-- A node stands at a place among trees, below the labels of a path. -/
inductive StandsAt : List CountedTree → List Nat → List String → CountedTree → Prop
  | top {ts : List CountedTree} {i : Nat} {t : CountedTree} (h : ts[i]? = some t) : StandsAt ts [i] [] t
  | under {ts : List CountedTree} {i : Nat} {t : CountedTree} {place : List Nat} {above : List String} {u : CountedTree}
      (h : ts[i]? = some t) (hu : StandsAt t.children place above u) : StandsAt ts (i :: place) (t.label :: above) u

/-- Rows with places list trees depth first, where the trees stand below the labels of a path.  What is listed are the
rows of all nodes, each once.  The row of a node is followed at once by those of the nodes below it, whose places begin
with its own, and siblings are in order. -/
structure DepthFirst (o : ValueOrder) (hideZero : Bool) (base : List String) (ts : List CountedTree)
    (entries : List PlacedRow) : Prop where
  distinct : entries.Pairwise fun d e => d.place ≠ e.place
  shown : ∀ place r, ⟨place, r⟩ ∈ entries ↔
    ∃ above t, StandsAt ts place above t ∧ r = t.row hideZero (base ++ above)
  subtree : ∀ e ∈ entries, ∃ before below after, entries = before ++ e :: (below ++ after) ∧
    (∀ d ∈ below, e.place <+: d.place) ∧ ∀ d ∈ before ++ after, ¬e.place <+: d.place
  siblings : entries.Pairwise fun d e => ∀ above i j, d.place = above ++ [i] → e.place = above ++ [j] →
    o.Precedes (i, d.row.count) (j, e.row.count)

/-! ### Siblings in order -/

theorem nodup_indices {ts : List CountedTree} {arranged : List (CountedTree × Nat)} (h : arranged.Perm ts.zipIdx) :
    (arranged.map Prod.snd).Nodup := by
  rw [(h.map Prod.snd).nodup_iff, List.zipIdx_map_snd]
  exact List.nodup_range'

theorem distinct_indices {ts : List CountedTree} {arranged : List (CountedTree × Nat)} (h : arranged.Perm ts.zipIdx) :
    arranged.Pairwise fun x y => x.2 ≠ y.2 :=
  List.pairwise_map.1 (nodup_indices h)

private theorem pairwise_indices (ts : List CountedTree) : ts.zipIdx.Pairwise fun x y => x.2 < y.2 := by
  have hrange : (ts.zipIdx.map Prod.snd).Pairwise (· < ·) := by
    rw [List.zipIdx_map_snd]
    exact List.pairwise_lt_range' 1
  exact List.pairwise_map.1 hrange

/-- Sorting by count arranges the nodes with their indices, as equal counts keep their order. -/
private theorem exists_sorted (o : ValueOrder) (ts : List CountedTree) {f : CountedTree → TreeRow × List TreeRow}
    (hlabel : ∀ t, (f t).1.label = t.label) (hcount : ∀ t, (f t).1.count = t.count) :
    ∃ arranged : List (CountedTree × Nat), arranged.Perm ts.zipIdx ∧
      (ts.map f).mergeSort (fun a b => o.before (a.1.label, a.1.count) (b.1.label, b.1.count)) =
        arranged.map (fun x => f x.1) ∧
      arranged.Pairwise fun x y => o.before (x.1.label, x.1.count) (y.1.label, y.1.count) = true ∧
        (o.before (y.1.label, y.1.count) (x.1.label, x.1.count) = true → x.2 < y.2) := by
  let le : CountedTree → CountedTree → Bool := fun a b => o.before (a.label, a.count) (b.label, b.count)
  have hperm : (ts.zipIdx.mergeSort (List.zipIdxLE le)).Perm ts.zipIdx := List.mergeSort_perm ..
  refine ⟨ts.zipIdx.mergeSort (List.zipIdxLE le), hperm, ?_, ?_⟩
  · rw [← List.map_mergeSort (r := le) fun a _ b _ => by simp only [le, hlabel, hcount], ← List.mergeSort_zipIdx,
      List.map_map]
    rfl
  · have htrans : ∀ x y z, List.zipIdxLE le x y = true → List.zipIdxLE le y z = true → List.zipIdxLE le x z = true :=
      List.zipIdxLE_trans fun _ _ _ => ValueOrder.before_trans
    have htotal : ∀ x y, (List.zipIdxLE le x y || List.zipIdxLE le y x) = true :=
      List.zipIdxLE_total fun _ _ => o.before_total _ _
    have hsorted := List.pairwise_mergeSort htrans htotal ts.zipIdx
    refine (hsorted.and (distinct_indices hperm)).imp ?_
    rintro x y ⟨hle, hne⟩
    simp only [List.zipIdxLE, le] at hle
    by_cases hbefore : o.before (x.1.label, x.1.count) (y.1.label, y.1.count) = true
    · refine ⟨hbefore, fun hback => ?_⟩
      rw [if_pos hbefore, if_pos hback, decide_eq_true_eq] at hle
      omega
    · rw [if_neg hbefore] at hle
      cases hle

/-- Siblings are sorted by an arrangement of the nodes with their indices. -/
theorem exists_arranged (o : ValueOrder) (ts : List CountedTree) {f : CountedTree → TreeRow × List TreeRow}
    (hlabel : ∀ t, (f t).1.label = t.label) (hcount : ∀ t, (f t).1.count = t.count) :
    ∃ arranged : List (CountedTree × Nat), arranged.Perm ts.zipIdx ∧
      o.sortSiblings (ts.map f) = arranged.map (fun x => f x.1) ∧
      arranged.Pairwise fun x y => o.Precedes (x.2, x.1.count) (y.2, y.1.count) := by
  have hmap : ts.map f = ts.zipIdx.map fun x => f x.1 := by
    rw [← Function.comp_def f Prod.fst, ← List.map_map, List.zipIdx_map_fst]
  obtain ⟨sorted, hperm, hsorts, hsorted⟩ := exists_sorted o ts hlabel hcount
  cases o with
  | term => exact ⟨ts.zipIdx, .refl _, hmap, pairwise_indices ts⟩
  | reverseTerm =>
    refine ⟨ts.zipIdx.reverse, List.reverse_perm _, ?_, List.pairwise_reverse.2 (pairwise_indices ts)⟩
    rw [ValueOrder.sortSiblings, hmap, List.map_reverse]
  | count | reverseCount =>
    refine ⟨sorted, hperm, hsorts, hsorted.imp ?_⟩
    rintro x y ⟨hle, hback⟩
    simp only [ValueOrder.before, decide_eq_true_eq] at hle hback
    simp only [ValueOrder.Precedes]
    omega

/-! ### Rows below an index -/

theorem StandsAt.ne_nil {ts : List CountedTree} {place : List Nat} {above : List String} {t : CountedTree}
    (h : StandsAt ts place above t) : place ≠ [] := by
  cases h <;> simp

theorem standsAt_cons {ts : List CountedTree} {i : Nat} {place : List Nat} {above : List String} {u : CountedTree} :
    StandsAt ts (i :: place) above u ↔ ∃ t, ts[i]? = some t ∧
      (place = [] ∧ above = [] ∧ u = t ∨ ∃ labels, above = t.label :: labels ∧ StandsAt t.children place labels u) := by
  constructor
  · intro h
    cases h with
    | top h => exact ⟨u, h, Or.inl ⟨rfl, rfl, rfl⟩⟩
    | under h hu => exact ⟨_, h, Or.inr ⟨_, rfl, hu⟩⟩
  · rintro ⟨t, h, ⟨rfl, rfl, rfl⟩ | ⟨labels, rfl, hu⟩⟩
    · exact .top h
    · exact .under h hu

/-- A row in front of the rows below its node, all moved below an index. -/
def entriesAt (i : Nat) (r : TreeRow) (below : List PlacedRow) : List PlacedRow :=
  ⟨[i], r⟩ :: below.map fun e => ⟨i :: e.place, e.row⟩

theorem mem_entriesAt {i : Nat} {r : TreeRow} {below : List PlacedRow} {e : PlacedRow} :
    e ∈ entriesAt i r below ↔ e = ⟨[i], r⟩ ∨ ∃ d ∈ below, ⟨i :: d.place, d.row⟩ = e := by
  rw [entriesAt, List.mem_cons, List.mem_map]

theorem place_of_mem_entriesAt {i : Nat} {r : TreeRow} {below : List PlacedRow} {e : PlacedRow}
    (h : e ∈ entriesAt i r below) : ∃ place, e.place = i :: place := by
  rcases mem_entriesAt.1 h with rfl | ⟨d, -, rfl⟩
  · exact ⟨[], rfl⟩
  · exact ⟨d.place, rfl⟩

section

variable {o : ValueOrder} {hideZero : Bool} {base : List String} {ts : List CountedTree} {entries : List PlacedRow}

theorem DepthFirst.place_ne_nil (h : DepthFirst o hideZero base ts entries) {e : PlacedRow} (he : e ∈ entries) :
    e.place ≠ [] := by
  obtain ⟨above, t, ht, -⟩ := (h.shown e.place e.row).1 he
  exact ht.ne_nil

/-- The rows of the nodes below one of the listed nodes follow its own row at once. -/
theorem DepthFirst.subtree_entriesAt (h : DepthFirst o hideZero base ts entries) {i : Nat} {r : TreeRow}
    {e : PlacedRow} (he : e ∈ entriesAt i r entries) :
    ∃ before below after, entriesAt i r entries = before ++ e :: (below ++ after) ∧
      (∀ d ∈ below, e.place <+: d.place) ∧ ∀ d ∈ before ++ after, ¬e.place <+: d.place := by
  rcases mem_entriesAt.1 he with rfl | ⟨d, hd, rfl⟩
  · refine ⟨[], entries.map fun e => ⟨i :: e.place, e.row⟩, [], by rw [List.append_nil]; rfl, ?_, List.forall_mem_nil _⟩
    rw [List.forall_mem_map]
    exact fun d _ => List.cons_prefix_cons.2 ⟨rfl, List.nil_prefix⟩
  · obtain ⟨before, below, after, hsplit, hin, hout⟩ := h.subtree d hd
    refine ⟨entriesAt i r before, below.map fun e => ⟨i :: e.place, e.row⟩,
      after.map fun e => ⟨i :: e.place, e.row⟩, by simp [entriesAt, hsplit], ?_, ?_⟩
    · rw [List.forall_mem_map]
      exact fun d' hd' => List.cons_prefix_cons.2 ⟨rfl, hin d' hd'⟩
    · rw [entriesAt, List.cons_append, List.forall_mem_cons, ← List.map_append, List.forall_mem_map]
      refine ⟨fun hprefix => ?_, fun d' hd' hprefix => hout d' hd' (List.cons_prefix_cons.1 hprefix).2⟩
      exact h.place_ne_nil hd (List.prefix_nil.1 (List.cons_prefix_cons.1 hprefix).2)

theorem pairwise_entriesAt {R : PlacedRow → PlacedRow → Prop} {i : Nat} {r : TreeRow} :
    (entriesAt i r entries).Pairwise R ↔
      (∀ d ∈ entries, R ⟨[i], r⟩ ⟨i :: d.place, d.row⟩) ∧
        entries.Pairwise fun d e => R ⟨i :: d.place, d.row⟩ ⟨i :: e.place, e.row⟩ := by
  rw [entriesAt, List.pairwise_cons, List.forall_mem_map, List.pairwise_map]

/-- Only the first row stands at the index itself. -/
theorem DepthFirst.eq_of_place_eq (h : DepthFirst o hideZero base ts entries) {i : Nat} {r : TreeRow} {e : PlacedRow}
    (he : e ∈ entriesAt i r entries) {j : Nat} (hplace : e.place = [j]) : j = i ∧ e = ⟨[i], r⟩ := by
  rcases mem_entriesAt.1 he with rfl | ⟨d, hd, rfl⟩
  · exact ⟨(List.cons.inj hplace).1.symm, rfl⟩
  · exact absurd (List.cons.inj hplace).2 (h.place_ne_nil hd)

/-! ### Joining listings -/

/-- The rows of some nodes with their indices, each followed by the rows below it. -/
def joinEntries (hideZero : Bool) (base : List String) (below : CountedTree → List PlacedRow)
    (arranged : List (CountedTree × Nat)) : List PlacedRow :=
  arranged.flatMap fun x => entriesAt x.2 (x.1.row hideZero base) (below x.1)

variable {arranged : List (CountedTree × Nat)} {below : CountedTree → List PlacedRow}

section

variable (hperm : arranged.Perm ts.zipIdx)
  (hbelow : ∀ x ∈ arranged, DepthFirst o hideZero (base ++ [x.1.label]) x.1.children (below x.1))

include hperm hbelow

private theorem distinct_join :
    (joinEntries hideZero base below arranged).Pairwise fun d e => d.place ≠ e.place := by
  rw [joinEntries, List.pairwise_flatMap]
  refine ⟨fun x hx => pairwise_entriesAt.2 ⟨fun d hd heq => ?_, ?_⟩, ?_⟩
  · exact (hbelow x hx).place_ne_nil hd (List.cons.inj heq).2.symm
  · exact (hbelow x hx).distinct.imp fun hne heq => hne (List.cons.inj heq).2
  · refine (distinct_indices hperm).imp fun hne d hd e he heq => ?_
    obtain ⟨_, hd⟩ := place_of_mem_entriesAt hd
    obtain ⟨_, he⟩ := place_of_mem_entriesAt he
    rw [hd, he] at heq
    exact hne (List.cons.inj heq).1

private theorem shown_join (place : List Nat) (r : TreeRow) :
    ⟨place, r⟩ ∈ joinEntries hideZero base below arranged ↔
      ∃ above t, StandsAt ts place above t ∧ r = t.row hideZero (base ++ above) := by
  have hmem : ∀ x, x ∈ arranged ↔ ts[x.2]? = some x.1 := fun x => hperm.mem_iff.trans List.mem_zipIdx_iff_getElem?
  rw [joinEntries, List.mem_flatMap]
  constructor
  · rintro ⟨x, hx, he⟩
    have hstands := (hmem x).1 hx
    rcases mem_entriesAt.1 he with heq | ⟨d, hd, heq⟩
    · cases heq
      exact ⟨[], x.1, .top hstands, by rw [List.append_nil]⟩
    · cases heq
      obtain ⟨above, u, hu, hrow⟩ := ((hbelow x hx).shown d.place d.row).1 hd
      exact ⟨x.1.label :: above, u, .under hstands hu, by rw [hrow, List.append_assoc, List.singleton_append]⟩
  · rintro ⟨above, u, hu, rfl⟩
    cases hu with
    | top h => exact ⟨(u, _), (hmem _).2 h, mem_entriesAt.2 (Or.inl (by rw [List.append_nil]))⟩
    | @under _ i t place above _ h hu =>
      have hx : (t, i) ∈ arranged := (hmem _).2 h
      have hd := ((hbelow _ hx).shown place _).2 ⟨above, u, hu, rfl⟩
      refine ⟨(t, i), hx, mem_entriesAt.2 (Or.inr ⟨_, hd, ?_⟩)⟩
      rw [List.append_assoc, List.singleton_append]

private theorem subtree_join {e : PlacedRow} (he : e ∈ joinEntries hideZero base below arranged) :
    ∃ before rows after, joinEntries hideZero base below arranged = before ++ e :: (rows ++ after) ∧
      (∀ d ∈ rows, e.place <+: d.place) ∧ ∀ d ∈ before ++ after, ¬e.place <+: d.place := by
  obtain ⟨x, hx, hfirst⟩ := List.mem_flatMap.1 he
  obtain ⟨before, rows, after, hsplit, hin, hout⟩ := (hbelow x hx).subtree_entriesAt hfirst
  obtain ⟨xs, ys, rfl⟩ := List.append_of_mem hx
  have hnew : x.2 ∉ (xs ++ ys).map Prod.snd := by
    have hnodup := nodup_indices hperm
    rw [List.map_append, List.map_cons, List.nodup_middle, ← List.map_append] at hnodup
    exact (List.nodup_cons.1 hnodup).1
  -- below the other siblings, places begin with another index
  have hothers : ∀ d ∈ joinEntries hideZero base below (xs ++ ys), ¬e.place <+: d.place := by
    intro d hd hprefix
    obtain ⟨y, hy, hsecond⟩ := List.mem_flatMap.1 hd
    obtain ⟨_, hi⟩ := place_of_mem_entriesAt hfirst
    obtain ⟨_, hj⟩ := place_of_mem_entriesAt hsecond
    rw [hi, hj] at hprefix
    exact hnew (List.mem_map.2 ⟨y, hy, (List.cons_prefix_cons.1 hprefix).1.symm⟩)
  rw [joinEntries, List.flatMap_append] at hothers
  obtain ⟨hxs, hys⟩ := List.forall_mem_append.1 hothers
  obtain ⟨hbefore, hafter⟩ := List.forall_mem_append.1 hout
  refine ⟨joinEntries hideZero base below xs ++ before, rows, after ++ joinEntries hideZero base below ys, ?_, hin, ?_⟩
  · simp [joinEntries, hsplit]
  · simp only [List.forall_mem_append]
    exact ⟨⟨hxs, hbefore⟩, hafter, hys⟩

private theorem siblings_join (hsorted : arranged.Pairwise fun x y => o.Precedes (x.2, x.1.count) (y.2, y.1.count)) :
    (joinEntries hideZero base below arranged).Pairwise fun d e => ∀ above i j,
      d.place = above ++ [i] → e.place = above ++ [j] → o.Precedes (i, d.row.count) (j, e.row.count) := by
  rw [joinEntries, List.pairwise_flatMap]
  refine ⟨fun x hx => pairwise_entriesAt.2 ⟨fun d hd above i j hi hj => ?_, ?_⟩, ?_⟩
  · cases above with
    | nil => exact absurd (List.cons.inj hj).2 ((hbelow x hx).place_ne_nil hd)
    | cons k above => simp at hi
  · refine (hbelow x hx).siblings.imp_of_mem fun hd _ hordered above i j hi hj => ?_
    cases above with
    | nil => exact absurd (List.cons.inj hi).2 ((hbelow x hx).place_ne_nil hd)
    | cons k above => exact hordered above i j (List.cons.inj hi).2 (List.cons.inj hj).2
  · refine (hsorted.and (distinct_indices hperm)).imp_of_mem fun {x y} hx hy hxy d hd e he above i j hi hj => ?_
    cases above with
    | nil =>
      obtain ⟨rfl, rfl⟩ := (hbelow x hx).eq_of_place_eq hd hi
      obtain ⟨rfl, rfl⟩ := (hbelow y hy).eq_of_place_eq he hj
      exact hxy.1
    | cons k above =>
      obtain ⟨_, hd⟩ := place_of_mem_entriesAt hd
      obtain ⟨_, he⟩ := place_of_mem_entriesAt he
      rw [hd] at hi
      rw [he] at hj
      exact absurd ((List.cons.inj hi).1.trans (List.cons.inj hj).1.symm) hxy.2

/-- Listings of what stands below some nodes, joined to a listing of these nodes and of all below them. -/
theorem DepthFirst.join
    (hsorted : arranged.Pairwise fun x y => o.Precedes (x.2, x.1.count) (y.2, y.1.count)) :
    DepthFirst o hideZero base ts (joinEntries hideZero base below arranged) where
  distinct := distinct_join hperm hbelow
  shown := shown_join hperm hbelow
  subtree := fun _ => subtree_join hperm hbelow
  siblings := siblings_join hperm hbelow hsorted

end

/-! ### Listings of trees -/

theorem rowsOf_eq (o : ValueOrder) (hideZero : Bool) (above : List String) (t : CountedTree) :
    rowsOf o hideZero above t =
      (t.row hideZero above, joinRows o (groupsOf o hideZero (above ++ [t.label]) t.children)) := by
  obtain ⟨l, n, ts⟩ := t
  rw [rowsOf]
  rfl

theorem groupsOf_eq_map (o : ValueOrder) (hideZero : Bool) (above : List String) (ts : List CountedTree) :
    groupsOf o hideZero above ts = ts.map (rowsOf o hideZero above) := by
  induction ts with
  | nil => rfl
  | cons t ts ih => rw [groupsOf, ih, List.map_cons]

/-- Whether the rows of trees are listed depth first, wherever the trees stand. -/
def Listed (o : ValueOrder) (hideZero : Bool) (ts : List CountedTree) : Prop :=
  ∀ base, ∃ entries, DepthFirst o hideZero base ts entries ∧
    entries.map PlacedRow.row = joinRows o (groupsOf o hideZero base ts)

theorem listed_of_children (h : ∀ t ∈ ts, Listed o hideZero t.children) : Listed o hideZero ts := by
  intro base
  choose! below hbelow hrows using fun t ht => h t ht (base ++ [t.label])
  obtain ⟨arranged, hperm, hmap, hsorted⟩ := exists_arranged o ts (f := rowsOf o hideZero base)
    (fun t => by rw [rowsOf_eq]; rfl) (fun t => by rw [rowsOf_eq]; rfl)
  have hmem : ∀ x ∈ arranged, x.1 ∈ ts := fun x hx =>
    List.mem_of_getElem? (List.mem_zipIdx_iff_getElem?.1 (hperm.mem_iff.1 hx))
  refine ⟨_, DepthFirst.join hperm (fun x hx => hbelow x.1 (hmem x hx)) hsorted, ?_⟩
  rw [joinRows, groupsOf_eq_map, hmap, List.flatMap_map, joinEntries, List.map_flatMap]
  refine List.flatMap_congr fun x hx => ?_
  rw [rowsOf_eq, ← hrows x.1 (hmem x hx), entriesAt, List.map_cons, List.map_map]
  rfl

mutual

private theorem listed_children (o : ValueOrder) (hideZero : Bool) : ∀ t : CountedTree, Listed o hideZero t.children
  | .node _ _ ts => listed_of_children (listed_each o hideZero ts)

private theorem listed_each (o : ValueOrder) (hideZero : Bool) :
    ∀ ts : List CountedTree, ∀ t ∈ ts, Listed o hideZero t.children
  | [] => List.forall_mem_nil _
  | t :: ts => List.forall_mem_cons.2 ⟨listed_children o hideZero t, listed_each o hideZero ts⟩

end

theorem listed (o : ValueOrder) (hideZero : Bool) (ts : List CountedTree) : Listed o hideZero ts :=
  listed_of_children (listed_each o hideZero ts)

end

end CountedTree

/-! ### Counts above and below -/

namespace ValueTree

variable {counts : List (String × Nat)}

theorem mem_rollupList {t : CountedTree} {ts : List ValueTree} :
    t ∈ rollupList counts ts ↔ ∃ u ∈ ts, u.rollup counts = t := by
  induction ts with
  | nil => simp [rollupList]
  | cons u ts ih => rw [rollupList, List.mem_cons, ih, List.exists_mem_cons_iff, eq_comm]

theorem children_rollup (t : ValueTree) : (t.rollup counts).children = rollupList counts t.children := by
  rw [rollup_eq, CountedTree.children]

theorem sum_children_le (t : ValueTree) :
    ((rollupList counts t.children).map CountedTree.count).sum ≤ (t.rollup counts).count := by
  obtain ⟨l, ts⟩ := t
  cases ts with
  | nil => exact Nat.zero_le _
  | cons t ts => exact Nat.le_refl _

end ValueTree

namespace CountedTree

variable {counts : List (String × Nat)} {us : List ValueTree} {place rest : List Nat} {above above' : List String}
  {t u : CountedTree}

theorem StandsAt.count_le_sum (h : StandsAt (ValueTree.rollupList counts us) place above t) :
    t.count ≤ ((ValueTree.rollupList counts us).map CountedTree.count).sum := by
  induction place generalizing us above with
  | nil => exact absurd rfl h.ne_nil
  | cons i place ih =>
    obtain ⟨w, hw, h⟩ := standsAt_cons.1 h
    have hmem := List.mem_of_getElem? hw
    have hle : w.count ≤ ((ValueTree.rollupList counts us).map CountedTree.count).sum :=
      List.le_sum_of_mem (List.mem_map_of_mem hmem)
    rcases h with ⟨-, -, rfl⟩ | ⟨labels, -, h⟩
    · exact hle
    · obtain ⟨v, -, rfl⟩ := ValueTree.mem_rollupList.1 hmem
      rw [v.children_rollup] at h
      exact ((ih h).trans v.sum_children_le).trans hle

/-- The counts of all nodes are 64-bit numbers if those of the leaves add up to one. -/
theorem StandsAt.count_lt (h : StandsAt (ValueTree.rollupList counts us) place above t)
    (hfits : ((ValueTree.leavesList us).map (lastCount counts)).sum < wordLimit) : t.count < wordLimit := by
  rw [← ValueTree.sum_rollupList] at hfits
  exact Nat.lt_of_le_of_lt h.count_le_sum hfits

/-- No node counts more than one above it. -/
theorem StandsAt.count_le (ht : StandsAt (ValueTree.rollupList counts us) place above t)
    (hu : StandsAt (ValueTree.rollupList counts us) (place ++ rest) above' u) : u.count ≤ t.count := by
  induction place generalizing us above above' with
  | nil => exact absurd rfl ht.ne_nil
  | cons i place ih =>
    obtain ⟨w, hw, ht⟩ := standsAt_cons.1 ht
    obtain ⟨w', hw', hu⟩ := standsAt_cons.1 hu
    obtain rfl : w = w' := Option.some.inj (hw.symm.trans hw')
    obtain ⟨v, -, rfl⟩ := ValueTree.mem_rollupList.1 (List.mem_of_getElem? hw)
    rw [v.children_rollup] at ht hu
    rcases ht with ⟨-, -, rfl⟩ | ⟨labels, -, ht⟩
    · rcases hu with ⟨-, -, rfl⟩ | ⟨labels, -, hu⟩
      · exact Nat.le_refl _
      · exact hu.count_le_sum.trans v.sum_children_le
    · rcases hu with ⟨hnil, -, -⟩ | ⟨labels', -, hu⟩
      · exact absurd (List.append_eq_nil_iff.1 hnil).1 ht.ne_nil
      · exact ih ht hu

end CountedTree

/-- The rows of a tree whose counts are added up are listed depth first, one for each node: a row is followed at once by
those of the nodes below its node, and siblings stand in the configured order or its reverse, or by count with equal
counts in the configured order.  What stands above a visible row is visible. -/
theorem flatten_rollup (o : ValueOrder) (hideZero : Bool) (counts : List (String × Nat)) (ts : List ValueTree) :
    ∃ entries, CountedTree.DepthFirst o hideZero [] (ValueTree.rollupList counts ts) entries ∧
      entries.map PlacedRow.row = CountedTree.flatten o hideZero (ValueTree.rollupList counts ts) ∧
      ∀ d ∈ entries, ∀ e ∈ entries, d.place <+: e.place → e.row.visible = true → d.row.visible = true := by
  obtain ⟨entries, hlisted, hrows⟩ := CountedTree.listed o hideZero (ValueTree.rollupList counts ts) []
  refine ⟨entries, hlisted, hrows, fun d hd e he hprefix hvisible => ?_⟩
  obtain ⟨above, t, ht, hd⟩ := (hlisted.shown d.place d.row).1 hd
  obtain ⟨above', u, hu, he⟩ := (hlisted.shown e.place e.row).1 he
  obtain ⟨rest, hrest⟩ := hprefix
  rw [← hrest] at hu
  have hle : u.count ≤ t.count := ht.count_le hu
  rw [he] at hvisible
  rw [hd]
  simp only [CountedTree.row, Bool.not_eq_true', Bool.and_eq_false_iff, beq_eq_false_iff_ne] at hvisible ⊢
  exact hvisible.imp_right fun hpos hzero => hpos (by omega)

/-- Equal counts keep the configured order, and the branch comes first as its leaves count more together. -/
example :
    let ts : List ValueTree := [.leaf "Other", .node "Fruit" [.leaf "Apple", .leaf "Lime", .leaf "Plum"]]
    let counts := [("Plum", 4), ("Other", 5), ("Lime", 4), ("Apple", 1)]
    (CountedTree.flatten .reverseCount true (ValueTree.rollupList counts ts)).map (fun r => (r.path, r.count)) =
      [(["Fruit"], 9), (["Fruit", "Lime"], 4), (["Fruit", "Plum"], 4), (["Fruit", "Apple"], 1), (["Other"], 5)] := by
  cbv

end FacetedSearch
