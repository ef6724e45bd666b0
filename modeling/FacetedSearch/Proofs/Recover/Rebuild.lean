import FacetedSearch.Proofs.Recover.Replay

/-!
# Building a query again

A query is determined by the clauses at each place and by the order in which nested paths are first used.  A state
whose criteria come in the order of a walk has the same clauses at each place as the state that was walked, and it
uses the nested paths in the same order, since the walk went through them in this order.

* `eraseDups_walked`: the order of first use is kept when a list is rearranged in this order.
* `compileQuery_walked`: the same criteria in walk order give the same query.
-/

namespace FacetedSearch

/-! ### The order of first use -/

section

variable {f g : String → List String}

/-- A list in which equal items stand together: the order of first use is that of the blocks. -/
private theorem eraseDups_flatMap (hf : ∀ p, ∀ x ∈ f p, x = p) {ps : List String} (hnodup : ps.Nodup) :
    (ps.flatMap f).eraseDups = ps.filter fun p => !(f p).isEmpty := by
  have hblock : ∀ p, (f p).eraseDups = if (f p).isEmpty then [] else [p] := by
    intro p
    have hp := hf p
    generalize f p = xs at hp
    cases xs with
    | nil => rfl
    | cons x xs =>
      have hx : x = p := hp x (List.mem_cons_self ..)
      have hxs : (xs.filter fun y => !y == x) = [] := by
        rw [List.filter_eq_nil_iff]
        intro y hy
        rw [hp y (List.mem_cons_of_mem _ hy), hx]
        simp
      rw [List.eraseDups_cons, hxs, hx]
      rfl
  induction ps with
  | nil => rfl
  | cons p ps ih =>
    obtain ⟨hp, hnodup⟩ := List.nodup_cons.1 hnodup
    have hrest : (ps.flatMap f).removeAll (f p) = ps.flatMap f := by
      rw [List.removeAll, List.filter_eq_self]
      intro x hx
      obtain ⟨q, hq, hxq⟩ := List.mem_flatMap.1 hx
      have hxp : x ∉ f p := fun hmem => hp (by rw [← hf p x hmem, hf q x hxq]; exact hq)
      simp [hxp]
    rw [List.flatMap_cons, List.eraseDups_append, hrest, hblock, ih hnodup]
    cases hempty : (f p).isEmpty with
    | true => rw [List.filter_cons_of_neg (by simp [hempty])]; rfl
    | false => rw [List.filter_cons_of_pos (by simp [hempty])]; rfl

private theorem filter_eraseDups_append (xs ys : List String) :
    ((xs ++ ys).eraseDups.filter fun p => p ∈ xs) = xs.eraseDups ∧
      ((xs ++ ys).eraseDups.filter fun p => p ∉ xs) = (ys.removeAll xs).eraseDups := by
  have hin : ∀ p ∈ xs.eraseDups, p ∈ xs := fun p hp => List.mem_eraseDups.1 hp
  have hout : ∀ p ∈ (ys.removeAll xs).eraseDups, p ∉ xs := by
    intro p hp
    have hmem := (List.mem_filter.1 (List.mem_eraseDups.1 hp)).2
    simpa using hmem
  rw [List.eraseDups_append, List.filter_append, List.filter_append]
  constructor
  · rw [List.filter_eq_self.2 fun p hp => decide_eq_true (hin p hp),
      List.filter_eq_nil_iff.2 fun p hp hmem => hout p hp (of_decide_eq_true hmem), List.append_nil]
  · rw [List.filter_eq_nil_iff.2 fun p hp hmem => absurd (hin p hp) (of_decide_eq_true hmem),
      List.filter_eq_self.2 fun p hp => decide_eq_true (hout p hp), List.nil_append]

private theorem removeAll_congr {xs ys zs : List String} (h : ∀ x, x ∈ ys ↔ x ∈ zs) :
    xs.removeAll ys = xs.removeAll zs := by
  rw [List.removeAll, List.removeAll]
  apply List.filter_congr
  intro x _
  have hx : ys.elem x = zs.elem x := by
    rw [Bool.eq_iff_iff, List.elem_iff, List.elem_iff]
    exact h x
  rw [hx]

/-- Blocks of the members of a list: they hold these members, in the order of the blocks. -/
private theorem walked_block {as ps : List String} (hnodup : ps.Nodup) (hsub : ∀ p ∈ as, p ∈ ps)
    (hf : ∀ p, ∀ x ∈ f p, x = p) (hfa : ∀ p, f p ≠ [] ↔ p ∈ as) :
    (ps.flatMap f).eraseDups = (ps.filter fun p => p ∈ as) ∧ ∀ p, p ∈ ps.flatMap f ↔ p ∈ as := by
  constructor
  · rw [eraseDups_flatMap hf hnodup]
    apply List.filter_congr
    intro p _
    rw [Bool.eq_iff_iff, Bool.not_eq_true', decide_eq_true_eq, ← hfa p, ← List.isEmpty_eq_false_iff]
  · intro p
    rw [List.mem_flatMap]
    constructor
    · rintro ⟨q, -, hp⟩
      rw [hf q p hp]
      exact (hfa q).1 (List.ne_nil_of_mem hp)
    · intro hp
      obtain ⟨x, hx⟩ := List.exists_mem_of_ne_nil _ ((hfa p).2 hp)
      exact ⟨p, hsub p hp, by rw [← hf p x hx]; exact hf p x hx ▸ hx⟩

private theorem removeAll_append (xs ys zs : List String) :
    (xs ++ ys).removeAll zs = xs.removeAll zs ++ ys.removeAll zs := List.filter_append ..

/-- Two lists rearranged in the order of first use, with the rest as it was: the order of first use is kept. -/
private theorem eraseDups_walked {as bs rest ps : List String} (hps : ps = (as ++ (bs ++ rest)).eraseDups)
    (hnodup : ps.Nodup) (hf : ∀ p, ∀ x ∈ f p, x = p) (hg : ∀ p, ∀ x ∈ g p, x = p) (hfa : ∀ p, f p ≠ [] ↔ p ∈ as)
    (hgb : ∀ p, g p ≠ [] ↔ p ∈ bs) : (ps.flatMap f ++ (ps.flatMap g ++ rest)).eraseDups = ps := by
  have hmem : ∀ p, p ∈ ps ↔ p ∈ as ∨ p ∈ bs ∨ p ∈ rest := by
    intro p
    rw [hps, List.mem_eraseDups, List.mem_append, List.mem_append]
  obtain ⟨hfirst, hfmem⟩ := walked_block hnodup (fun p hp => (hmem p).2 (Or.inl hp)) hf hfa
  -- past the first list, only the items that are not in it count
  have hpast : ∀ p, (g p).removeAll as ≠ [] ↔ p ∈ bs.removeAll as := by
    intro p
    rw [List.removeAll, List.removeAll, List.mem_filter, Ne, List.filter_eq_nil_iff]
    constructor
    · intro h
      simp only [Classical.not_forall] at h
      obtain ⟨x, hx, hnot⟩ := h
      rw [hg p x hx] at hnot
      exact ⟨(hgb p).1 (List.ne_nil_of_mem hx), Classical.not_not.1 hnot⟩
    · rintro ⟨hp, hnot⟩ hnone
      obtain ⟨x, hx⟩ := List.exists_mem_of_ne_nil _ ((hgb p).2 hp)
      exact hnone x hx (by rw [hg p x hx]; exact hnot)
  have hblocks : (ps.flatMap g).removeAll as = ps.flatMap fun p => (g p).removeAll as := List.filter_flatMap ..
  have hsub : ∀ p ∈ bs.removeAll as, p ∈ ps := fun p hp => (hmem p).2 (Or.inr (Or.inl (List.mem_filter.1 hp).1))
  obtain ⟨hsecond, hgmem⟩ := walked_block (f := fun p => (g p).removeAll as) hnodup hsub
    (fun p x hx => hg p x (List.mem_filter.1 hx).1) hpast
  obtain ⟨hin, hout⟩ := filter_eraseDups_append as (bs ++ rest)
  rw [← hps] at hin hout
  rw [removeAll_append] at hout
  have hin' : (ps.filter fun p => p ∈ bs.removeAll as) = (bs.removeAll as).eraseDups := by
    rw [← (filter_eraseDups_append (bs.removeAll as) (rest.removeAll as)).1, ← hout, List.filter_filter]
    apply List.filter_congr
    intro p _
    by_cases hp : p ∈ bs.removeAll as
    · have hnot := (List.mem_filter.1 hp).2
      simp only [hp, decide_true, Bool.true_and]
      simpa using hnot
    · simp [hp]
  -- block by block, both sides are the items of the first list, those that the second adds, and the rest
  rw [List.eraseDups_append, hfirst, hin, removeAll_congr hfmem, removeAll_append, hblocks, List.eraseDups_append,
    hsecond, hin', removeAll_congr hgmem, ← List.eraseDups_append, ← removeAll_append, ← List.eraseDups_append]
  exact hps.symm

end

namespace Config

variable {c : Config} {s : SearchState}

/-! ### The same clauses at each place -/

/-- The criteria of a state, kind by kind. -/
theorem kindByKind_criteria (c : Config) (s : SearchState) : KindByKind c s (c.criteria s) := by
  have hchosen : ∀ k ∈ chosenCriteria s [] s.selections,
      k.isChosen = true ∧ k.isWithin = false ∧ k.isText = false := by
    intro k hk
    rcases mem_chosenCriteria_iff.1 hk with ⟨x, -, -, rfl⟩ | ⟨x, -, -, -, rfl⟩ <;> exact ⟨rfl, rfl, rfl⟩
  have hwithin : ∀ k ∈ c.rangeCriteria s.ranges, k.isChosen = false ∧ k.isWithin = true ∧ k.isText = false := by
    intro k hk
    obtain ⟨r, -, f, -, rfl⟩ := mem_rangeCriteria_iff.1 hk
    exact ⟨rfl, rfl, rfl⟩
  have htext : ∀ k ∈ c.textCriteria s, k.isChosen = false ∧ k.isWithin = false ∧ k.isText = true := by
    intro k hk
    obtain ⟨q, -, rfl⟩ := mem_textCriteria_iff.1 hk
    exact ⟨rfl, rfl, rfl⟩
  have hnone : ∀ {p : Criterion → Bool} {ks : List Criterion}, (∀ k ∈ ks, p k = false) → ks.filter p = [] :=
    fun h => List.filter_eq_nil_iff.2 fun k hk => by rw [h k hk]; exact Bool.false_ne_true
  constructor
  · rw [criteria, List.filter_append, List.filter_append, List.filter_eq_self.2 fun k hk => (hchosen k hk).1,
      hnone fun k hk => (hwithin k hk).1, hnone fun k hk => (htext k hk).1, List.append_nil, List.append_nil]
  · rw [criteria, List.filter_append, List.filter_append, List.filter_eq_self.2 fun k hk => (hwithin k hk).2.1,
      hnone fun k hk => (hchosen k hk).2.1, hnone fun k hk => (htext k hk).2.1, List.append_nil, List.nil_append]
  · rw [criteria, List.filter_append, List.filter_append, List.filter_eq_self.2 fun k hk => (htext k hk).2.2,
      hnone fun k hk => (hchosen k hk).2.2, hnone fun k hk => (hwithin k hk).2.2, List.nil_append]
    rfl

/-- In the order of a walk, the criteria of one kind at one place are in their own order. -/
private theorem filter_kind_walkOrder (kind : Criterion → Bool) (place : Place) :
    (((c.walkOrder s).filter kind).filter fun k => k.place c = place) =
      ((c.criteria s).filter kind).filter fun k => k.place c = place := by
  have hswap : ∀ ks : List Criterion, ((ks.filter kind).filter fun k => k.place c = place) =
      (ks.filter fun k => k.place c = place).filter kind := by
    intro ks
    rw [List.filter_filter, List.filter_filter]
    apply List.filter_congr
    intro k _
    exact Bool.and_comm _ _
  rw [hswap, hswap, filter_walkOrder, criteriaAt]

private theorem clausesAt_walked {s' : SearchState} (h : KindByKind c s' (c.walkOrder s)) (place : Place) :
    Placed.clausesAt place (c.placed s') = Placed.clausesAt place (c.placed s) := by
  have hown := kindByKind_criteria c s
  rw [clausesAt_placed, clausesAt_placed, h.chosen, h.within, h.text, hown.chosen, hown.within, hown.text]
  simp only [List.filter_append, filter_kind_walkOrder]

/-! ### The same paths -/

private theorem filterMap_path?_placed (ks : List Criterion) :
    (ks.map (Criterion.placed c)).filterMap Placed.path? = ks.filterMap c.scopeOf := by
  rw [List.filterMap_map]
  congr 1
  funext k
  exact scope_place c k

/-- The nested paths of criteria kind by kind, and those of the filters. -/
private theorem paths_of_kinds {ks : List Criterion} (h : KindByKind c s ks) :
    Placed.paths (c.placed s) =
      ((ks.filter Criterion.isChosen).filterMap c.scopeOf ++
        ((ks.filter Criterion.isWithin).filterMap c.scopeOf ++ c.placeFilters.filterMap Placed.path?)).eraseDups := by
  have htext : (ks.filter Criterion.isText).filterMap c.scopeOf = [] := by
    rw [← h.text, List.filterMap_eq_nil_iff]
    intro k hk
    obtain ⟨q, -, rfl⟩ := mem_textCriteria_iff.1 hk
    rfl
  rw [Placed.paths_eq, placed_eq, List.filterMap_append, List.filterMap_append, filterMap_path?_placed,
    filterMap_path?_placed, h.chosen, h.within, h.text, htext, List.append_nil, List.filterMap_append,
    List.append_assoc]

/-- The paths of the criteria of one kind at the nested places, path by path. -/
private theorem scopes_walkOrder (kind : Criterion → Bool) :
    ((c.walkOrder s).filter kind).filterMap c.scopeOf =
      (Placed.paths (c.placed s)).flatMap fun path =>
        ((c.criteriaAt s (.nested path)).filter kind).filterMap c.scopeOf := by
  have hnone : ∀ place : Place, place.scope = none →
      ((c.criteriaAt s place).filter kind).filterMap c.scopeOf = [] := by
    intro place hplace
    rw [List.filterMap_eq_nil_iff]
    intro k hk
    have hk : k.place c = place := of_decide_eq_true (List.mem_filter.1 (List.mem_filter.1 hk).1).2
    rw [← scope_place, hk, hplace]
  rw [walkOrder, List.filter_append, List.filter_append, List.filterMap_append, List.filterMap_append,
    hnone .query rfl, hnone .filter rfl, List.append_nil, List.nil_append, List.filter_flatMap,
    List.filterMap_flatMap]

private theorem mem_scopes_iff {kind : Criterion → Bool} {path x : String} :
    x ∈ ((c.criteriaAt s (.nested path)).filter kind).filterMap c.scopeOf ↔
      x = path ∧ path ∈ ((c.criteria s).filter kind).filterMap c.scopeOf := by
  simp only [List.mem_filterMap, criteriaAt, List.mem_filter, decide_eq_true_eq]
  constructor
  · rintro ⟨k, ⟨⟨hk, hplace⟩, hkind⟩, hscope⟩
    rw [← scope_place, hplace] at hscope
    have hx : path = x := Option.some.inj hscope
    refine ⟨hx.symm, k, ⟨hk, hkind⟩, ?_⟩
    rw [← scope_place, hplace]
    rfl
  · rintro ⟨rfl, k, ⟨hk, hkind⟩, hscope⟩
    refine ⟨k, ⟨⟨hk, ?_⟩, hkind⟩, hscope⟩
    rw [← scope_place] at hscope
    cases hplace : k.place c <;> rw [hplace] at hscope <;> cases hscope
    rfl

private theorem paths_walked {s' : SearchState} (h : KindByKind c s' (c.walkOrder s)) :
    Placed.paths (c.placed s') = Placed.paths (c.placed s) := by
  have hfew : ∀ (kind : Criterion → Bool) (path : String),
      ((c.criteriaAt s (.nested path)).filter kind).filterMap c.scopeOf ≠ [] ↔
        path ∈ ((c.criteria s).filter kind).filterMap c.scopeOf := by
    intro kind path
    constructor
    · intro hne
      obtain ⟨x, hx⟩ := List.exists_mem_of_ne_nil _ hne
      exact (mem_scopes_iff.1 hx).2
    · intro hpath
      exact List.ne_nil_of_mem (mem_scopes_iff.2 ⟨rfl, hpath⟩)
  rw [paths_of_kinds h, scopes_walkOrder, scopes_walkOrder]
  exact eraseDups_walked (paths_of_kinds (kindByKind_criteria c s)) (Placed.nodup_paths _)
    (fun _ _ hx => (mem_scopes_iff.1 hx).1) (fun _ _ hx => (mem_scopes_iff.1 hx).1) (hfew _) (hfew _)

/-- A state whose criteria are those of another one, in the order of its walk, has the same query. -/
theorem compileQuery_walked {s' : SearchState} (h : KindByKind c s' (c.walkOrder s)) :
    c.compileQuery s' = c.compileQuery s := by
  rw [compileQuery, compileQuery, queryOf, queryOf, nestedClauses, nestedClauses, paths_walked h]
  simp only [clausesAt_walked h]

end Config

end FacetedSearch
