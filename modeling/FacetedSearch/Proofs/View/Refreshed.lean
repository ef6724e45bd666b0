import FacetedSearch.Proofs.Config.Merged
import FacetedSearch.Proofs.View.Contents

/-!
# Views made anew

Views that are made once more from the same counts, with themselves as the views before, come out the same, entry for
entry.  Values without a count are taken from the view as it stands, and no longer in the order in which they first came
in.  This makes no difference, as sorting is stable: the order of values that it tells apart is the order of the facet,
and all others keep theirs.

* `filter_ties_sortValues`: sorting keeps the order of values that it does not tell apart.
* `eq_of_sorted`: a sorted list is known by the order of such values.
* `gatherValues_of_nodup`: the values before sorting, when no value is carried over twice.
* `flatValues_again`: a list of values made anew.
* `aggregate_again`: the views of all facets made anew.
-/

namespace FacetedSearch

/-- A value with its count as it stands in a list, where what counts zero may be hidden. -/
def FacetValue.ofCount (hideZero : Bool) (e : String × Nat) : FacetValue := ⟨e.1, e.2, !(hideZero && e.2 == 0)⟩

/-- The values of a list that are none of some entries. -/
def unlisted (listed : List (String × Nat)) (vs : List FacetValue) : List FacetValue :=
  vs.filter (·.value ∉ listed.map Prod.fst)

/-! ### Stable sorting -/

namespace ValueOrder

/-- Whether an order does not tell two values apart. -/
def ties (o : ValueOrder) (x y : FacetValue) : Bool :=
  o.before (x.value, x.count) (y.value, y.count) && o.before (y.value, y.count) (x.value, x.count)

theorem ties_iff {o : ValueOrder} {x y : FacetValue} :
    o.ties x y = true ↔ o.before (x.value, x.count) (y.value, y.count) = true ∧
      o.before (y.value, y.count) (x.value, x.count) = true := by
  rw [ties, Bool.and_eq_true]

theorem ties_refl (o : ValueOrder) (x : FacetValue) : o.ties x x = true := by
  have hself := o.before_total (x.value, x.count) (x.value, x.count)
  rw [Bool.or_self] at hself
  exact ties_iff.2 ⟨hself, hself⟩

theorem filter_ties_sortValues (o : ValueOrder) (x : FacetValue) (vs : List FacetValue) :
    (o.sortValues vs).filter (o.ties x) = vs.filter (o.ties x) := by
  have hclass : (vs.filter (o.ties x)).Pairwise fun y z => o.before (y.value, y.count) (z.value, z.count) = true := by
    refine List.pairwise_iff_forall_sublist.2 fun {y z} hyz => ?_
    have hy := (List.mem_filter.1 (hyz.subset (List.mem_cons_self ..))).2
    have hz := (List.mem_filter.1 (hyz.subset (List.mem_cons_of_mem _ (List.mem_cons_self ..)))).2
    exact before_trans (b := (x.value, x.count)) (ties_iff.1 hy).2 (ties_iff.1 hz).1
  have hsub : (vs.filter (o.ties x)).Sublist (o.sortValues vs) := by
    rw [sortValues]
    refine List.sublist_mergeSort (fun y z w hyz hzw => ?_) (fun y z => ?_) hclass List.filter_sublist
    · exact before_trans hyz hzw
    · exact before_total o _ _
  have hfilter := hsub.filter (o.ties x)
  simp only [List.filter_filter, Bool.and_self] at hfilter
  exact (hfilter.eq_of_length ((o.sortValues_perm vs).filter _).length_eq.symm).symm

/-- Two lists in order are equal if they hold values that the order does not tell apart in the same sequence. -/
theorem eq_of_sorted {o : ValueOrder} {vs ws : List FacetValue}
    (hvs : vs.Pairwise fun x y => o.before (x.value, x.count) (y.value, y.count) = true)
    (hws : ws.Pairwise fun x y => o.before (x.value, x.count) (y.value, y.count) = true)
    (hties : ∀ x, vs.filter (o.ties x) = ws.filter (o.ties x)) : vs = ws := by
  induction vs generalizing ws with
  | nil =>
    cases ws with
    | nil => rfl
    | cons y ws =>
      have hy := hties y
      rw [List.filter_nil, List.filter_cons_of_pos (o.ties_refl y)] at hy
      cases hy
  | cons x vs ih =>
    have hx : x ∈ ws := by
      refine List.mem_of_mem_filter (p := o.ties x) ?_
      rw [← hties x, List.filter_cons_of_pos (o.ties_refl x)]
      exact List.mem_cons_self ..
    cases ws with
    | nil => cases hx
    | cons y ws =>
      have hy : y ∈ x :: vs := by
        refine List.mem_of_mem_filter (p := o.ties y) ?_
        rw [hties y, List.filter_cons_of_pos (o.ties_refl y)]
        exact List.mem_cons_self ..
      rw [List.pairwise_cons] at hvs hws
      -- each of the first values is found in the other list, so that neither comes before the other
      have htie : o.ties x y = true := by
        rcases List.mem_cons.1 hx with rfl | hx
        · exact o.ties_refl x
        · rcases List.mem_cons.1 hy with rfl | hy
          · exact o.ties_refl y
          · exact ties_iff.2 ⟨hvs.1 y hy, hws.1 x hx⟩
      have hhead := hties x
      rw [List.filter_cons_of_pos (o.ties_refl x), List.filter_cons_of_pos htie] at hhead
      obtain ⟨rfl, -⟩ := List.cons.inj hhead
      congr 1
      refine ih hvs.2 hws.2 fun z => ?_
      have hz := hties z
      rw [List.filter_cons, List.filter_cons] at hz
      split at hz
      · exact (List.cons.inj hz).2
      · exact hz

theorem sortValues_congr {o : ValueOrder} {vs ws : List FacetValue}
    (hties : ∀ x, vs.filter (o.ties x) = ws.filter (o.ties x)) : o.sortValues vs = o.sortValues ws := by
  refine eq_of_sorted (o.pairwise_sortValues vs) (o.pairwise_sortValues ws) fun x => ?_
  rw [filter_ties_sortValues, filter_ties_sortValues, hties x]

end ValueOrder

namespace Config

variable {c : Config}

/-! ### The values of a list -/

private theorem foldl_carry_eq {previous : List FacetValue} {acc : List (String × Nat)}
    (hnodup : ((unlisted acc previous).map (·.value)).Nodup) :
    previous.foldl (fun acc old => if acc.any (·.1 == old.value) then acc else acc ++ [(old.value, 0)]) acc =
      acc ++ (unlisted acc previous).map fun x => (x.value, 0) := by
  induction previous generalizing acc with
  | nil => exact (List.append_nil acc).symm
  | cons old previous ih =>
    have hany : acc.any (·.1 == old.value) = true ↔ old.value ∈ acc.map Prod.fst := by
      simp only [List.any_eq_true, beq_iff_eq, List.mem_map]
    rw [List.foldl_cons]
    rw [unlisted, List.filter_cons] at hnodup ⊢
    by_cases hpresent : old.value ∈ acc.map Prod.fst
    · rw [if_pos (hany.2 hpresent)]
      rw [if_neg (by simpa using hpresent)] at hnodup ⊢
      exact ih hnodup
    · rw [if_neg (mt hany.1 hpresent)]
      rw [if_pos (by simpa using hpresent)] at hnodup ⊢
      obtain ⟨hnew, hrest⟩ := List.nodup_cons.1 hnodup
      -- the value does not come again, so the new entry has no part in what is still to come
      have hsame : unlisted (acc ++ [(old.value, 0)]) previous = unlisted acc previous := by
        refine List.filter_congr fun x hx => ?_
        have hne : x.value ∉ acc.map Prod.fst → x.value ≠ old.value := by
          intro habsent heq
          exact hnew (List.mem_map.2 ⟨x, List.mem_filter.2 ⟨hx, by simpa using habsent⟩, heq⟩)
        rw [List.map_append, decide_eq_decide, List.mem_append, not_or]
        exact and_iff_left_of_imp fun habsent hmem => hne habsent (List.mem_singleton.1 hmem)
      rw [ih (by rwa [hsame]), hsame, List.append_assoc]
      rfl

/-- Of the values that were shown before, those that the counts do not list come in as they stand. -/
theorem gatherValues_of_nodup {counts : FacetCounts} {previous : List FacetValue}
    (hnodup : ((unlisted (counts.listed c.search.addUndefined) previous).map (·.value)).Nodup) :
    c.gatherValues counts previous = counts.listed c.search.addUndefined ++
      (unlisted (counts.listed c.search.addUndefined) previous).map fun x => (x.value, 0) := by
  rw [← gatherValues_nil] at hnodup ⊢
  exact foldl_carry_eq hnodup

theorem flatValues_eq (c : Config) (counts : FacetCounts) (previous : List FacetValue) (o : ValueOrder)
    (hideZero : Bool) :
    c.flatValues counts previous o hideZero =
      o.sortValues ((c.gatherValues counts previous).map (FacetValue.ofCount hideZero)) := rfl

/-- What the entries do not list are the values that stand behind them with a count of zero. -/
private theorem unlisted_append {listed : List (String × Nat)} {zeros : List String} (hideZero : Bool)
    (hnew : ∀ v ∈ zeros, v ∉ listed.map Prod.fst) :
    unlisted listed ((listed ++ zeros.map (·, 0)).map (FacetValue.ofCount hideZero)) =
      zeros.map fun v => FacetValue.ofCount hideZero (v, 0) := by
  have hlisted : unlisted listed (listed.map (FacetValue.ofCount hideZero)) = [] := by
    rw [unlisted, List.filter_eq_nil_iff]
    intro x hx
    obtain ⟨e, he, rfl⟩ := List.mem_map.1 hx
    simpa using! List.mem_map_of_mem (f := Prod.fst) he
  have hzeros : unlisted listed (zeros.map fun v => FacetValue.ofCount hideZero (v, 0)) =
      zeros.map fun v => FacetValue.ofCount hideZero (v, 0) := by
    rw [unlisted, List.filter_eq_self]
    intro x hx
    obtain ⟨v, hv, rfl⟩ := List.mem_map.1 hx
    exact decide_eq_true (hnew v hv)
  rw [unlisted] at hlisted hzeros ⊢
  rw [List.map_append, List.map_map, List.filter_append, hlisted, List.nil_append]
  exact hzeros

/-- A list of values that is made anew from itself is the same list. -/
theorem flatValues_again (c : Config) (counts : FacetCounts) (previous : List FacetValue) (o : ValueOrder)
    (hideZero : Bool) :
    c.flatValues counts (c.flatValues counts previous o hideZero) o hideZero =
      c.flatValues counts previous o hideZero := by
  obtain ⟨zeros, hgather, hnodup, hnew⟩ := gatherValues_eq c counts previous
  let listed := counts.listed c.search.addUndefined
  let first := (c.gatherValues counts previous).map (FacetValue.ofCount hideZero)
  have hfirst : unlisted listed first = zeros.map fun v => FacetValue.ofCount hideZero (v, 0) := by
    show unlisted listed ((c.gatherValues counts previous).map (FacetValue.ofCount hideZero)) = _
    rw [hgather]
    exact unlisted_append hideZero hnew
  have hperm : (unlisted listed (o.sortValues first)).Perm (zeros.map fun v => FacetValue.ofCount hideZero (v, 0)) := by
    rw [← hfirst]
    exact (o.sortValues_perm first).filter _
  have hcarried : ((unlisted listed (o.sortValues first)).map (·.value)).Nodup := by
    rw [(hperm.map _).nodup_iff, List.map_map]
    exact (List.map_id zeros).symm ▸ hnodup
  -- what is carried over stands in the list already as it comes in again
  have hsame : (unlisted listed (o.sortValues first)).map (fun x => FacetValue.ofCount hideZero (x.value, 0)) =
      unlisted listed (o.sortValues first) := by
    refine (List.map_congr_left fun x hx => ?_).trans (List.map_id _)
    obtain ⟨v, -, rfl⟩ := List.mem_map.1 (hperm.mem_iff.1 hx)
    rfl
  have hagain : c.flatValues counts (o.sortValues first) o hideZero =
      o.sortValues (listed.map (FacetValue.ofCount hideZero) ++ unlisted listed (o.sortValues first)) := by
    rw [flatValues_eq, gatherValues_of_nodup hcarried, List.map_append, List.map_map]
    exact congrArg (fun vs => o.sortValues (listed.map (FacetValue.ofCount hideZero) ++ vs)) hsame
  have hnow : c.flatValues counts previous o hideZero = o.sortValues first := rfl
  rw [hnow, hagain]
  refine ValueOrder.sortValues_congr fun x => ?_
  have hties : (unlisted listed (o.sortValues first)).filter (o.ties x) =
      (unlisted listed first).filter (o.ties x) := by
    rw [unlisted, unlisted, List.filter_comm, o.filter_ties_sortValues, List.filter_comm]
  rw [List.filter_append, hties, hfirst, ← List.filter_append]
  congr 1
  show _ = (c.gatherValues counts previous).map (FacetValue.ofCount hideZero)
  rw [hgather, List.map_append, List.map_map]
  rfl

/-! ### Views -/

/-- The view of a facet that is made anew from itself. -/
theorem view_again (c : Config) (f : Facet) (counts : FacetCounts) (l : Logic) (previous : Option FacetView) :
    c.view f counts l (some (c.view f counts l previous)) = c.view f counts l previous := by
  cases htree : c.hierarchy? f.field with
  | some ts => simp only [view, htree]
  | none =>
    simp only [view, htree, Option.map_some, Option.getD_some]
    rw [FacetView.values]
    simp only [flatValues_again]

/-- The view of a facet among those of all facets. -/
theorem find?_aggregate {c : Config} (hfields : (c.facets.map (·.field)).Nodup) {f : Facet} (hf : f ∈ c.facets)
    (counts : Entries FacetCounts) (s : SearchState) (previous : List FacetView) :
    (c.aggregate counts s previous).find? (·.field == f.field) =
      some (c.view f ((counts.get? f.field).getD {}) ((s.keyLogic f.field).getD f.operator)
        (previous.find? (·.field == f.field))) := by
  obtain ⟨i, hi⟩ := List.mem_iff_getElem?.1 hf
  have hfacet : c.facets.find? (·.field == f.field) = some f := facet?_eq hfields hi
  rw [aggregate, List.find?_map]
  have hsame : ((fun v : FacetView => v.field == f.field) ∘ fun f => c.view f ((counts.get? f.field).getD {})
      ((s.keyLogic f.field).getD f.operator) (previous.find? (·.field == f.field))) = fun g => g.field == f.field := rfl
  rw [hsame, hfacet, Option.map_some]

/-- Views that are made anew from the same counts, in the same state and from themselves as the views before, are the
same entry for entry. -/
theorem aggregate_again {sources : List Source} {c : Config} (hmerge : merge sources = .ok c)
    (counts : Entries FacetCounts) (s : SearchState) (previous : List FacetView) :
    c.aggregate counts s (c.aggregate counts s previous) = c.aggregate counts s previous := by
  have hfields : (c.facets.map (·.field)).Nodup := nodup_fields_of_merge hmerge
  conv_lhs => rw [aggregate]
  conv_rhs => rw [aggregate]
  refine List.map_congr_left fun f hf => ?_
  rw [find?_aggregate hfields hf, view_again]

/-- A size that was counted twice is listed twice, around another one with the same count and in front of those that
count nothing; when the views are made anew they stand there still. -/
theorem counted_sizes_again :
    let c : Config := { facets := [{ field := "size", order := .reverseCount }], root := some "" }
    let counts : Entries FacetCounts := [("size", { terms := [("M", 2), ("S", 2), ("M", 2), ("L", 0)] })]
    let shown : List FacetView :=
      [⟨"size", "size", .term, .and, .flat [⟨"XS", 1, true⟩, ⟨"M", 1, true⟩, ⟨"XL", 4, true⟩]⟩]
    merge [⟨"search.toml", { facets := some [{ field := some "size", order := some .reverseCount }] }⟩] = .ok c ∧
      (c.aggregate counts {} shown).map FacetView.values =
        [[⟨"M", 2, true⟩, ⟨"S", 2, true⟩, ⟨"M", 2, true⟩, ⟨"L", 0, false⟩, ⟨"XS", 0, false⟩, ⟨"XL", 0, false⟩]] ∧
      c.aggregate counts {} (c.aggregate counts {} shown) = c.aggregate counts {} shown := by
  intro c counts shown
  have hmerge : merge [⟨"search.toml", { facets := some [{ field := some "size", order := some .reverseCount }] }⟩] =
      .ok c := by rfl
  have hlisted : (c.aggregate counts {} shown).map FacetView.values = [ValueOrder.reverseCount.sortValues
      [⟨"M", 2, true⟩, ⟨"S", 2, true⟩, ⟨"M", 2, true⟩, ⟨"L", 0, false⟩, ⟨"XS", 0, false⟩, ⟨"XL", 0, false⟩]] := by rfl
  rw [ValueOrder.sortValues_eq_self (by decide)] at hlisted
  exact ⟨hmerge, hlisted, aggregate_again hmerge counts {} shown⟩

end Config

end FacetedSearch
