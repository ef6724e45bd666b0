import FacetedSearch.View

/-!
# The values of a view

A flat view lists the values that were counted, the one for missing values where it is asked for, and the values that
were shown before; the last ones count zero.  Sorting has no part in which values there are.

* `FacetCounts.Lists`: the values that counts give by themselves.
* `mem_gatherValues_iff`: the values before sorting, with the counts of those that were shown before.
* `listed_or_carried`: where a value of the views of all facets comes from.
-/

namespace FacetedSearch

/-- A value that was counted, or the one for missing values when some records have none. -/
def FacetCounts.Lists (n : FacetCounts) (withMissing : Bool) (v : String) : Prop :=
  (∃ k, (v, k) ∈ n.terms) ∨ (withMissing = true ∧ 0 < n.missing ∧ v = undefinedText)

namespace Config

variable {c : Config}

private theorem mem_foldl_carry (previous : List FacetValue) (acc : List (String × Nat)) (v : String) (n : Nat) :
    (v, n) ∈ previous.foldl (fun acc old => if acc.any (·.1 == old.value) then acc else acc ++ [(old.value, 0)]) acc ↔
      (v, n) ∈ acc ∨ (n = 0 ∧ (∀ m, (v, m) ∉ acc) ∧ ∃ old ∈ previous, old.value = v) := by
  induction previous generalizing acc with
  | nil => simp
  | cons old previous ih =>
    rw [List.foldl_cons, ih]
    by_cases hpresent : acc.any (·.1 == old.value) = true
    · -- the value is there already, so it is not the one that is looked for
      obtain ⟨⟨w, k⟩, hmem, hw⟩ := List.any_eq_true.1 hpresent
      have hmem : (old.value, k) ∈ acc := beq_iff_eq.1 hw ▸ hmem
      rw [if_pos hpresent]
      constructor
      · rintro (h | ⟨hn, habsent, older, holder, hv⟩)
        · exact Or.inl h
        · exact Or.inr ⟨hn, habsent, older, List.mem_cons_of_mem _ holder, hv⟩
      · rintro (h | ⟨hn, habsent, older, holder, hv⟩)
        · exact Or.inl h
        · rcases List.mem_cons.1 holder with rfl | holder
          · exact absurd (hv ▸ hmem) (habsent k)
          · exact Or.inr ⟨hn, habsent, older, holder, hv⟩
    · have habsentOld : ∀ k, (old.value, k) ∉ acc := by
        intro k hk
        exact hpresent (List.any_eq_true.2 ⟨_, hk, beq_iff_eq.2 rfl⟩)
      rw [if_neg hpresent]
      simp only [List.mem_append, List.mem_singleton, Prod.mk.injEq]
      constructor
      · rintro ((h | ⟨rfl, rfl⟩) | ⟨hn, habsent, older, holder, hv⟩)
        · exact Or.inl h
        · exact Or.inr ⟨rfl, habsentOld, old, List.mem_cons_self .., rfl⟩
        · exact Or.inr ⟨hn, fun m hm => habsent m (Or.inl hm), older, List.mem_cons_of_mem _ holder, hv⟩
      · rintro (h | ⟨hn, habsent, older, holder, hv⟩)
        · exact Or.inl (Or.inl h)
        · by_cases hold : old.value = v
          · exact Or.inl (Or.inr ⟨hold.symm, hn⟩)
          · rcases List.mem_cons.1 holder with rfl | holder
            · exact absurd hv hold
            · refine Or.inr ⟨hn, fun m hm => ?_, older, holder, hv⟩
              rcases hm with hm | ⟨heq, -⟩
              · exact habsent m hm
              · exact hold heq.symm

/-- A value that was shown before comes after those that were counted, with a count of zero, unless it is one of
them. -/
theorem mem_gatherValues_iff {counts : FacetCounts} {previous : List FacetValue} {v : String} {n : Nat} :
    (v, n) ∈ c.gatherValues counts previous ↔
      (v, n) ∈ c.gatherValues counts [] ∨
        (n = 0 ∧ (∀ m, (v, m) ∉ c.gatherValues counts []) ∧ ∃ old ∈ previous, old.value = v) :=
  mem_foldl_carry previous _ v n

theorem exists_mem_gatherValues_nil_iff {counts : FacetCounts} {v : String} :
    (∃ n, (v, n) ∈ c.gatherValues counts []) ↔ counts.Lists c.search.addUndefined v := by
  simp only [gatherValues, List.foldl_nil, FacetCounts.Lists]
  split
  · rename_i hadded
    simp only [Bool.and_eq_true, decide_eq_true_eq] at hadded
    obtain ⟨⟨hwanted, hmissing⟩, -⟩ := hadded
    simp only [List.mem_append, List.mem_singleton, Prod.mk.injEq, exists_or, hwanted, hmissing, true_and]
    simp
  · rename_i hnot
    refine ⟨Or.inl, ?_⟩
    rintro (h | ⟨hwanted, hmissing, rfl⟩)
    · exact h
    · -- a counted value has the text for missing values already
      obtain ⟨⟨w, k⟩, hmem, hw⟩ : ∃ x ∈ counts.terms, (x.1 == undefinedText) = true := by
        simpa [hwanted, hmissing] using hnot
      exact ⟨k, beq_iff_eq.1 hw ▸ hmem⟩

theorem mem_flatValues_iff {counts : FacetCounts} {previous : List FacetValue} {o : ValueOrder} {hideZero : Bool}
    {x : FacetValue} :
    x ∈ c.flatValues counts previous o hideZero ↔
      (x.value, x.count) ∈ c.gatherValues counts previous ∧ x.visible = !(hideZero && x.count == 0) := by
  rw [flatValues, ValueOrder.sortValues, List.mem_mergeSort, List.mem_map]
  constructor
  · rintro ⟨⟨v, n⟩, hmem, rfl⟩
    exact ⟨hmem, rfl⟩
  · rintro ⟨hmem, hvisible⟩
    refine ⟨_, hmem, ?_⟩
    show FacetValue.mk x.value x.count (!(hideZero && x.count == 0)) = x
    rw [← hvisible]

/-! ### Views -/

theorem values_view_of_flat {f : Facet} {counts : FacetCounts} {l : Logic} {previous : Option FacetView}
    (hflat : c.hierarchy? f.field = none) :
    (c.view f counts l previous).values =
      c.flatValues counts ((previous.map FacetView.values).getD []) f.order (l == .and && c.search.pruneZero) := by
  simp only [view, FacetView.values, hflat]

theorem values_view_of_tree {f : Facet} {counts : FacetCounts} {l : Logic} {previous : Option FacetView}
    {ts : List ValueTree} (htree : c.hierarchy? f.field = some ts) : (c.view f counts l previous).values = [] := by
  simp only [view, FacetView.values, htree]

theorem exists_mem_view_of_lists {f : Facet} {counts : FacetCounts} {l : Logic} {previous : Option FacetView}
    {v : String} (hflat : c.hierarchy? f.field = none) (hlisted : counts.Lists c.search.addUndefined v) :
    ∃ x ∈ (c.view f counts l previous).values, x.value = v := by
  obtain ⟨n, hn⟩ := exists_mem_gatherValues_nil_iff.2 hlisted
  let x : FacetValue := ⟨v, n, !(l == .and && c.search.pruneZero && n == 0)⟩
  rw [values_view_of_flat hflat]
  exact ⟨x, mem_flatValues_iff.2 ⟨mem_gatherValues_iff.2 (Or.inl hn), rfl⟩, rfl⟩

theorem mem_view_of_shown {f : Facet} {counts : FacetCounts} {l : Logic} {previous : FacetView} {v : String}
    (hflat : c.hierarchy? f.field = none) (hunlisted : ¬ counts.Lists c.search.addUndefined v)
    (hshown : ∃ old ∈ previous.values, old.value = v) :
    ⟨v, 0, !(l == .and && c.search.pruneZero)⟩ ∈ (c.view f counts l (some previous)).values := by
  have hcarried : (v, 0) ∈ c.gatherValues counts previous.values :=
    mem_gatherValues_iff.2 (Or.inr ⟨rfl, fun m hm => hunlisted (exists_mem_gatherValues_nil_iff.1 ⟨m, hm⟩), hshown⟩)
  rw [values_view_of_flat hflat, mem_flatValues_iff]
  exact ⟨hcarried, by simp⟩

/-- A value of a view that its counts do not list was shown before, and counts zero now. -/
theorem carried_of_mem_view {f : Facet} {counts : FacetCounts} {l : Logic} {previous : Option FacetView}
    {x : FacetValue} (hx : x ∈ (c.view f counts l previous).values)
    (hunlisted : ¬ counts.Lists c.search.addUndefined x.value) :
    x.count = 0 ∧ ∃ p, previous = some p ∧ ∃ old ∈ p.values, old.value = x.value := by
  cases htree : c.hierarchy? f.field with
  | some ts =>
    rw [values_view_of_tree htree] at hx
    cases hx
  | none =>
    rw [values_view_of_flat htree, mem_flatValues_iff, mem_gatherValues_iff] at hx
    rcases hx.1 with hlisted | ⟨hzero, -, old, hold, hvalue⟩
    · exact absurd (exists_mem_gatherValues_nil_iff.1 ⟨_, hlisted⟩) hunlisted
    · cases previous with
      | none => cases hold
      | some p => exact ⟨hzero, p, rfl, old, hold, hvalue⟩

/-- The view that is found for a field. -/
theorem mem_of_find?_field {views : List FacetView} {field : String} {p : FacetView}
    (h : views.find? (·.field == field) = some p) : p ∈ views ∧ p.field = field :=
  ⟨List.mem_of_find?_eq_some h, beq_iff_eq.1 (List.find?_some (p := fun v : FacetView => v.field == field) h)⟩

/-- A value of the views of all facets is listed by the counts of the field of its view, or it counts zero and the
previous view of this field shows it. -/
theorem listed_or_carried {counts : Entries FacetCounts} {s : SearchState} {previous : List FacetView}
    {view : FacetView} (hview : view ∈ c.aggregate counts s previous) {x : FacetValue} (hx : x ∈ view.values) :
    ((counts.get? view.field).getD {}).Lists c.search.addUndefined x.value ∨
      (x.count = 0 ∧ ∃ old ∈ previous, old.field = view.field ∧ ∃ y ∈ old.values, y.value = x.value) := by
  obtain ⟨f, -, rfl⟩ := List.mem_map.1 hview
  by_cases hlisted : ((counts.get? f.field).getD {}).Lists c.search.addUndefined x.value
  · exact Or.inl hlisted
  · obtain ⟨hzero, p, hp, hy⟩ := carried_of_mem_view hx hlisted
    obtain ⟨hmem, hfield⟩ := mem_of_find?_field hp
    exact Or.inr ⟨hzero, p, hmem, hfield, hy⟩

end Config

end FacetedSearch
