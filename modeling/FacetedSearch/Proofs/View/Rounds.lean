import FacetedSearch.Proofs.Json.Proper
import FacetedSearch.Proofs.View.Values

/-!
# Views round by round

Views are made in rounds, each from its own counts and state and from the views of the round before.  A flat facet
then lists the values of all rounds, each of them once: those that the last round counts with their counts, and the
others with zero.

* `nodup_gatherValues`: merging old values into new ones repeats none.
* `count_of_mem_gatherValues`: the count of a value is that of the last round.
* `pairwise_sortValues`, `sortValues_eq_self`: sorted values are in order, and those in order stay.
* `mem_values_aggregate_iff`: the values after one round more.
* `mem_values_viewsAfter_iff`: the values after all rounds.
* `viewsAfter_flat`: what a flat facet shows after all rounds.
-/

namespace FacetedSearch

/-- What the views of a round are made from. -/
structure Round where
  counts : Entries FacetCounts
  state : SearchState

namespace Round

/-- The counts of a field. -/
def countsOf (r : Round) (field : String) : FacetCounts := (r.counts.get? field).getD {}

/-- The mode of a facet: the logic of its selections, or else its own. -/
def mode (r : Round) (f : Facet) : Logic := (r.state.keyLogic f.field).getD f.operator

end Round

/-- The views after some rounds, the last one first. -/
def Config.viewsAfter (c : Config) : List Round → List FacetView
  | [] => []
  | r :: earlier => c.aggregate r.counts r.state (viewsAfter c earlier)

namespace FacetCounts

/-- The count of a value by itself: what was counted, or the records without a value for the value that stands for
them. -/
def countOf (n : FacetCounts) (withMissing : Bool) (v : String) : Nat :=
  (n.count? v).getD (if withMissing = true ∧ v = undefinedText then n.missing else 0)

private theorem count?_eq_get? (n : FacetCounts) (v : String) : n.count? v = Entries.get? n.terms v := by
  rw [count?]
  induction n.terms with
  | nil => rfl
  | cons e es ih =>
    obtain ⟨w, k⟩ := e
    rw [Entries.get?_cons, List.find?_cons]
    by_cases hw : w = v
    · simp [hw]
    · have hv : ¬ v = w := fun h => hw h.symm
      simp [beq_eq_false_iff_ne.2 hw, hv, ih]

theorem countOf_of_mem {n : FacetCounts} (hnodup : (n.terms.map Prod.fst).Nodup) {withMissing : Bool} {v : String}
    {k : Nat} (h : (v, k) ∈ n.terms) : n.countOf withMissing v = k := by
  rw [countOf, count?_eq_get?, Entries.get?_of_mem hnodup h, Option.getD_some]

theorem countOf_of_not_mem {n : FacetCounts} {withMissing : Bool} {v : String} (h : ∀ k, (v, k) ∉ n.terms) :
    n.countOf withMissing v = if withMissing = true ∧ v = undefinedText then n.missing else 0 := by
  have hnone : Entries.get? n.terms v = none := by
    rw [Entries.get?_eq_none_iff]
    intro hmem
    obtain ⟨⟨w, k⟩, hk, rfl⟩ := List.mem_map.1 hmem
    exact h k hk
  rw [countOf, count?_eq_get?, hnone, Option.getD_none]

theorem countOf_of_not_lists {n : FacetCounts} {withMissing : Bool} {v : String} (h : ¬ n.Lists withMissing v) :
    n.countOf withMissing v = 0 := by
  rw [countOf_of_not_mem fun k hk => h (Or.inl ⟨k, hk⟩)]
  split
  · rename_i hmissing
    have hzero : ¬ 0 < n.missing := fun hpos => h (Or.inr ⟨hmissing.1, hpos, hmissing.2⟩)
    omega
  · rfl

end FacetCounts

/-! ### Merging -/

namespace Config

variable {c : Config} {counts : FacetCounts} {previous : List FacetValue}

private theorem nodup_append_new {acc : List (String × Nat)} {v : String} (n : Nat)
    (hacc : (acc.map Prod.fst).Nodup) (hnew : ¬ acc.any (·.1 == v) = true) :
    ((acc ++ [(v, n)]).map Prod.fst).Nodup := by
  have habsent : v ∉ acc.map Prod.fst := by
    intro hmem
    obtain ⟨x, hx, hv⟩ := List.mem_map.1 hmem
    exact hnew (List.any_eq_true.2 ⟨x, hx, beq_iff_eq.2 hv⟩)
  rw [List.map_append, List.nodup_append]
  refine ⟨hacc, List.pairwise_singleton .., fun a ha b hb heq => ?_⟩
  rw [heq, List.mem_singleton.1 hb] at ha
  exact habsent ha

private theorem nodup_foldl_carry {acc : List (String × Nat)} (hacc : (acc.map Prod.fst).Nodup) :
    ((previous.foldl (fun acc old => if acc.any (·.1 == old.value) then acc else acc ++ [(old.value, 0)]) acc).map
      Prod.fst).Nodup := by
  induction previous generalizing acc with
  | nil => exact hacc
  | cons old previous ih =>
    rw [List.foldl_cons]
    apply ih
    split
    · exact hacc
    · rename_i hnew
      exact nodup_append_new 0 hacc hnew

/-- Merging repeats no value, whatever was shown before. -/
theorem nodup_gatherValues (hnodup : (counts.terms.map Prod.fst).Nodup) :
    ((c.gatherValues counts previous).map Prod.fst).Nodup := by
  apply nodup_foldl_carry
  split
  · rename_i hadded
    simp only [Bool.and_eq_true, Bool.not_eq_true'] at hadded
    exact nodup_append_new _ hnodup (Bool.eq_false_iff.1 hadded.2)
  · exact hnodup

private theorem count_of_mem_gatherValues_nil (hnodup : (counts.terms.map Prod.fst).Nodup) {v : String} {n : Nat}
    (h : (v, n) ∈ c.gatherValues counts []) : n = counts.countOf c.search.addUndefined v := by
  simp only [gatherValues, List.foldl_nil] at h
  split at h
  · rename_i hadded
    simp only [Bool.and_eq_true, Bool.not_eq_true', decide_eq_true_eq] at hadded
    rcases List.mem_append.1 h with h | h
    · exact (FacetCounts.countOf_of_mem hnodup h).symm
    · obtain ⟨rfl, rfl⟩ := Prod.mk.inj (List.mem_singleton.1 h)
      rw [FacetCounts.countOf_of_not_mem fun k hk => ?_, if_pos ⟨hadded.1.1, rfl⟩]
      exact List.any_eq_false.1 hadded.2 _ hk (beq_iff_eq.2 rfl)
  · exact (FacetCounts.countOf_of_mem hnodup h).symm

/-- The count of a value does not depend on what was shown before. -/
theorem count_of_mem_gatherValues (hnodup : (counts.terms.map Prod.fst).Nodup) {v : String} {n : Nat}
    (h : (v, n) ∈ c.gatherValues counts previous) : n = counts.countOf c.search.addUndefined v := by
  rcases mem_gatherValues_iff.1 h with hcounted | ⟨rfl, hunlisted, -⟩
  · exact count_of_mem_gatherValues_nil hnodup hcounted
  · rw [FacetCounts.countOf_of_not_lists]
    intro hlists
    obtain ⟨k, hk⟩ := exists_mem_gatherValues_nil_iff.2 hlists
    exact hunlisted k hk

end Config

/-! ### Sorting -/

namespace ValueOrder

theorem before_trans {o : ValueOrder} {a b d : String × Nat} (hab : o.before a b = true) (hbd : o.before b d = true) :
    o.before a d = true := by
  cases o with
  | term => exact decide_eq_true (String.le_trans (of_decide_eq_true hab) (of_decide_eq_true hbd))
  | reverseTerm => exact decide_eq_true (String.le_trans (of_decide_eq_true hbd) (of_decide_eq_true hab))
  | count => exact decide_eq_true (Nat.le_trans (of_decide_eq_true hab) (of_decide_eq_true hbd))
  | reverseCount => exact decide_eq_true (Nat.le_trans (of_decide_eq_true hbd) (of_decide_eq_true hab))

theorem before_total (o : ValueOrder) (a b : String × Nat) : (o.before a b || o.before b a) = true := by
  rw [Bool.or_eq_true]
  cases o with
  | term => exact (String.le_total a.1 b.1).imp decide_eq_true decide_eq_true
  | reverseTerm => exact (String.le_total b.1 a.1).imp decide_eq_true decide_eq_true
  | count => exact (Nat.le_total a.2 b.2).imp decide_eq_true decide_eq_true
  | reverseCount => exact (Nat.le_total b.2 a.2).imp decide_eq_true decide_eq_true

theorem pairwise_sortValues (o : ValueOrder) (vs : List FacetValue) :
    (o.sortValues vs).Pairwise fun x y => o.before (x.value, x.count) (y.value, y.count) = true := by
  rw [sortValues]
  refine List.pairwise_mergeSort (fun x y z hxy hyz => ?_) (fun x y => ?_) vs
  · exact before_trans hxy hyz
  · exact before_total o _ _

theorem sortValues_eq_self {o : ValueOrder} {vs : List FacetValue}
    (h : vs.Pairwise fun x y => o.before (x.value, x.count) (y.value, y.count) = true) : o.sortValues vs = vs :=
  List.mergeSort_of_pairwise h

theorem sortValues_perm (o : ValueOrder) (vs : List FacetValue) : (o.sortValues vs).Perm vs :=
  List.mergeSort_perm _ _

end ValueOrder

namespace Config

variable {c : Config}

theorem nodup_flatValues {counts : FacetCounts} (hnodup : (counts.terms.map Prod.fst).Nodup)
    (previous : List FacetValue) (o : ValueOrder) (hideZero : Bool) :
    ((c.flatValues counts previous o hideZero).map (·.value)).Nodup := by
  refine ((ValueOrder.sortValues_perm o _).map _).nodup_iff.2 ?_
  rw [List.map_map]
  exact nodup_gatherValues hnodup

/-! ### One round -/

/-- The values of a flat view: those that the counts list, and those of the previous view of the field. -/
theorem mem_values_aggregate_iff {r : Round} {previous : List FacetView} {view : FacetView}
    (hview : view ∈ c.aggregate r.counts r.state previous) (hflat : c.hierarchy? view.field = none) {v : String} :
    (∃ x ∈ view.values, x.value = v) ↔
      (r.countsOf view.field).Lists c.search.addUndefined v ∨
        ∃ p, previous.find? (·.field == view.field) = some p ∧ ∃ x ∈ p.values, x.value = v := by
  obtain ⟨f, -, rfl⟩ := List.mem_map.1 hview
  constructor
  · rintro ⟨x, hx, rfl⟩
    by_cases hlisted : (r.countsOf f.field).Lists c.search.addUndefined x.value
    · exact Or.inl hlisted
    · exact Or.inr (carried_of_mem_view hx hlisted).2
  · rintro (hlisted | ⟨p, hp, hshown⟩)
    · exact exists_mem_view_of_lists hflat hlisted
    · by_cases hlisted : (r.countsOf f.field).Lists c.search.addUndefined v
      · exact exists_mem_view_of_lists hflat hlisted
      · have hcarried := mem_view_of_shown (l := r.mode f) hflat hlisted hshown
        rw [← hp] at hcarried
        exact ⟨_, hcarried, rfl⟩

/-! ### All rounds -/

theorem exists_view_of_round {f : Facet} (hf : f ∈ c.facets) (r : Round) (earlier : List Round) :
    ∃ view ∈ c.viewsAfter (r :: earlier), view.field = f.field :=
  ⟨_, List.mem_map.2 ⟨f, hf, rfl⟩, rfl⟩

/-- The values of a flat view are those that the counts of some round list. -/
theorem mem_values_viewsAfter_iff {rounds : List Round} {view : FacetView} (hview : view ∈ c.viewsAfter rounds)
    (hflat : c.hierarchy? view.field = none) {v : String} :
    (∃ x ∈ view.values, x.value = v) ↔
      ∃ r ∈ rounds, (r.countsOf view.field).Lists c.search.addUndefined v := by
  induction rounds generalizing view with
  | nil => cases hview
  | cons r earlier ih =>
    rw [mem_values_aggregate_iff hview hflat]
    simp only [List.mem_cons, exists_eq_or_imp]
    refine or_congr_right ?_
    constructor
    · rintro ⟨p, hp, hshown⟩
      obtain ⟨hmem, hfield⟩ := mem_of_find?_field hp
      rw [← hfield] at hflat ⊢
      exact (ih hmem hflat).1 hshown
    · rintro ⟨q, hq, hlisted⟩
      -- an earlier round has made a view of the field, and it shows the value
      obtain ⟨f, hf, hfield⟩ := List.mem_map.1 hview
      cases earlier with
      | nil => cases hq
      | cons e earlier =>
        obtain ⟨w, hw, hwfield⟩ := exists_view_of_round hf e earlier
        have hfound : ((c.viewsAfter (e :: earlier)).find? (·.field == view.field)).isSome := by
          rw [List.find?_isSome]
          exact ⟨w, hw, by rw [hwfield, ← hfield]; exact beq_iff_eq.2 rfl⟩
        obtain ⟨p, hp⟩ := Option.isSome_iff_exists.1 hfound
        obtain ⟨hmem, hpfield⟩ := mem_of_find?_field hp
        rw [← hpfield] at hflat hlisted
        exact ⟨p, hp, (ih hmem hflat).2 ⟨q, hq, hlisted⟩⟩

/-- After any rounds, each from the views of the one before, a flat facet lists each value of one of their counts once,
with the count of the last round and in the order of the facet. -/
theorem viewsAfter_flat {i : Nat} {f : Facet} (hf : c.facets[i]? = some f) (hflat : c.hierarchy? f.field = none)
    (r : Round) (earlier : List Round) (hdistinct : ((r.countsOf f.field).terms.map Prod.fst).Nodup) :
    ∃ view vs, (c.viewsAfter (r :: earlier))[i]? = some view ∧ view.field = f.field ∧ view.logic = r.mode f ∧
      view.entries = .flat vs ∧
      (vs.map (·.value)).Nodup ∧
      (∀ v, v ∈ vs.map (·.value) ↔ ∃ q ∈ r :: earlier, (q.countsOf f.field).Lists c.search.addUndefined v) ∧
      (∀ x ∈ vs, x.count = (r.countsOf f.field).countOf c.search.addUndefined x.value) ∧
      (∀ x ∈ vs, x.visible = false ↔ r.mode f = .and ∧ c.search.pruneZero = true ∧ x.count = 0) ∧
      vs.Pairwise fun x y => f.order.before (x.value, x.count) (y.value, y.count) = true := by
  let previous := (c.viewsAfter earlier).find? (·.field == f.field)
  let view := c.view f (r.countsOf f.field) (r.mode f) previous
  let vs := c.flatValues (r.countsOf f.field) ((previous.map FacetView.values).getD []) f.order
    (r.mode f == .and && c.search.pruneZero)
  have hget : (c.viewsAfter (r :: earlier))[i]? = some view := by
    rw [viewsAfter, aggregate, List.getElem?_map, hf]
    rfl
  have hentries : view.entries = .flat vs := by simp only [view, vs, Config.view, hflat]
  have hvalues : view.values = vs := by rw [FacetView.values, hentries]
  refine ⟨view, vs, hget, rfl, rfl, hentries, nodup_flatValues hdistinct .., fun v => ?_, fun x hx => ?_,
    fun x hx => ?_, f.order.pairwise_sortValues _⟩
  · rw [List.mem_map, ← hvalues]
    exact mem_values_viewsAfter_iff (List.mem_of_getElem? hget) hflat
  · exact count_of_mem_gatherValues hdistinct (mem_flatValues_iff.1 hx).1
  · rw [(mem_flatValues_iff.1 hx).2]
    simp [and_assoc]

/-- The size of the first round is listed by the second one still, with a count of zero, and is hidden. -/
theorem viewsAfter_two_rounds :
    let c : Config := { facets := [{ field := "size" }], search := { addUndefined := true } }
    let first : Round := ⟨[("size", { terms := [("S", 2)] })], .start {}⟩
    let second : Round := ⟨[("size", { terms := [("M", 4)], missing := 3 })], .start {}⟩
    ((second.countsOf "size").terms.map Prod.fst).Nodup ∧
      ∃ view vs, (c.viewsAfter [second, first])[0]? = some view ∧ view.entries = .flat vs ∧
        (vs.map (·.value)).Nodup ∧ undefinedText ∈ vs.map (·.value) ∧ "S" ∈ vs.map (·.value) ∧
        ∀ x ∈ vs, x.value = "S" → x.count = 0 ∧ x.visible = false := by
  intro c first second
  have hdistinct : ((second.countsOf "size").terms.map Prod.fst).Nodup := by decide
  obtain ⟨view, vs, hget, -, -, hentries, hnodup, hvalues, hcounts, hvisible, -⟩ :=
    viewsAfter_flat (c := c) (i := 0) (f := { field := "size" }) rfl rfl second [first] hdistinct
  have hbucket : undefinedText ∈ vs.map (·.value) :=
    (hvalues _).2 ⟨second, List.mem_cons_self .., Or.inr ⟨rfl, by decide, rfl⟩⟩
  have hearlier : "S" ∈ vs.map (·.value) := (hvalues "S").2 ⟨first, by simp, Or.inl ⟨2, by decide⟩⟩
  refine ⟨hdistinct, view, vs, hget, hentries, hnodup, hbucket, hearlier, fun x hx hvalue => ?_⟩
  have hzero : x.count = 0 := by
    rw [hcounts x hx, hvalue]
    rfl
  exact ⟨hzero, (hvisible x hx).2 ⟨rfl, rfl, hzero⟩⟩

end Config

end FacetedSearch
