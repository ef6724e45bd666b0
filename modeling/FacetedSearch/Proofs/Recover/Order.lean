import FacetedSearch.Proofs.Recover.Walk

/-!
# The order of a walk

A walk meets the criteria of a state place by place.  It meets each of them once, and those at one place in their
order; and the criteria themselves hold each selection of the state once.

* `walkOrder_perm`: the walk meets each criterion once.
* `filter_walkOrder`: the criteria at one place keep their order.
* `flatMap_selections_perm`: the criteria hold each selection once.
-/

namespace FacetedSearch

namespace Criterion

/-- The selections that a criterion is made of. -/
def selections : Criterion → List Selection
  | .one x => [x]
  | .oneOf key vs => vs.map fun v => ⟨key, v, .or⟩
  | _ => []

/-- The range that a criterion is made of. -/
def ranges : Criterion → List FacetRange
  | .within r _ => [r]
  | _ => []

/-- The free text that a criterion is made of. -/
def text? : Criterion → Option TextQuery
  | .text q => some q
  | _ => none

/-- Two criteria that are not groups of one key. -/
def Apart (k l : Criterion) : Prop := ∀ key vs ws, k = .oneOf key vs → l ≠ .oneOf key ws

theorem Apart.symm {k l : Criterion} (h : k.Apart l) : l.Apart k :=
  fun key vs ws hl hk => h key ws vs hk hl

end Criterion

namespace Config

/-! ### Place by place -/

theorem walkOrder_eq (c : Config) (s : SearchState) : c.walkOrder s = (c.places s).flatMap (c.criteriaAt s) := by
  rw [walkOrder, places, List.flatMap_append, List.flatMap_cons, List.flatMap_map, List.flatMap_cons,
    List.flatMap_nil, List.append_nil]

theorem place_mem_places {c : Config} {s : SearchState} {k : Criterion} (hk : k ∈ c.criteria s) :
    k.place c ∈ c.places s :=
  fst_mem_places (x := k.placed c) (mem_placed_iff.2 (Or.inl ⟨k, hk, rfl⟩))

/-- The walk meets each criterion once. -/
theorem walkOrder_perm (c : Config) (s : SearchState) : (c.walkOrder s).Perm (c.criteria s) := by
  rw [walkOrder_eq]
  exact perm_flatMap_filter _ (nodup_places c s) fun k hk => place_mem_places hk

/-- The criteria at one place keep their order. -/
theorem filter_walkOrder (c : Config) (s : SearchState) (place : Place) :
    ((c.walkOrder s).filter fun k => k.place c = place) = c.criteriaAt s place := by
  rw [walkOrder_eq]
  exact filter_flatMap_filter _ (nodup_places c s) (fun k hk => place_mem_places hk) place

/-! ### The selections of criteria -/

/-- Choices below a seen key add nothing. -/
private theorem alternatives_eq (s : SearchState) (key : String) :
    (s.alternatives key).map (fun v => (⟨key, v, .or⟩ : Selection)) =
      s.selections.filter fun x => x.key == key && x.logic == .or := by
  rw [SearchState.alternatives, SearchState.selectionsFor, List.filter_filter, List.map_map]
  have hsame : ∀ x ∈ s.selections.filter (fun x => x.logic == .or && x.key == key),
      ((fun v => (⟨key, v, .or⟩ : Selection)) ∘ fun x => x.value) x = x := by
    intro x hx
    obtain ⟨k, v, l⟩ := x
    have hboth := (List.mem_filter.1 hx).2
    simp only [Bool.and_eq_true, beq_iff_eq] at hboth
    obtain ⟨rfl, rfl⟩ := hboth
    rfl
  rw [List.map_congr_left hsame, List.map_id']
  apply List.filter_congr
  intro x _
  exact Bool.and_comm _ _

/-- Whether the walk over selections still has to come to a selection. -/
private def awaited (seen : List String) (x : Selection) : Bool := !(x.logic == .or && seen.contains x.key)

private theorem chosen_selections_perm {s : SearchState} {seen : List String} {xs : List Selection}
    (h : ∀ key, key ∉ seen → (s.selections.filter fun x => x.key == key && x.logic == .or) =
      xs.filter fun x => x.key == key && x.logic == .or) :
    ((chosenCriteria s seen xs).flatMap Criterion.selections).Perm (xs.filter (awaited seen)) := by
  -- along the walk, all OR selections of a key that was not seen yet are still ahead
  induction xs generalizing seen with
  | nil => exact .nil
  | cons x xs ih =>
    cases hl : x.logic with
    | and =>
      have hx : awaited seen x = true := by simp [awaited, hl]
      rw [List.filter_cons_of_pos hx]
      rw [chosenCriteria_and hl, List.flatMap_cons, Criterion.selections]
      refine (ih fun key hkey => ?_).cons x
      rw [h key hkey, List.filter_cons_of_neg (by simp [hl])]
    | or =>
      by_cases hseen : x.key ∈ seen
      · have hx : ¬awaited seen x = true := by simp [awaited, hl, hseen]
        rw [List.filter_cons_of_neg hx]
        rw [chosenCriteria_seen hl hseen]
        refine ih fun key hkey => ?_
        have hne : x.key ≠ key := by
          rintro rfl
          exact hkey hseen
        rw [h key hkey, List.filter_cons_of_neg (by simp [hne])]
      · -- the group of a key holds all its selections, and the rest of the walk passes over them
        rw [chosenCriteria_new hl hseen, List.flatMap_cons, Criterion.selections, alternatives_eq, h x.key hseen]
        have hgroup : ((x :: xs).filter fun y => y.key == x.key && y.logic == .or) =
            ((x :: xs).filter (awaited seen)).filter fun y => y.key == x.key && y.logic == .or := by
          rw [List.filter_filter]
          apply List.filter_congr
          intro y _
          by_cases hy : y.key = x.key <;> by_cases hor : y.logic = .or <;> simp [awaited, hy, hor, hseen]
        have hrest : xs.filter (awaited (x.key :: seen)) =
            ((x :: xs).filter (awaited seen)).filter fun y => !(y.key == x.key && y.logic == .or) := by
          rw [List.filter_filter, List.filter_cons_of_neg (by simp [hl])]
          apply List.filter_congr
          intro y _
          by_cases hy : y.key = x.key <;> by_cases hor : y.logic = .or <;> simp [awaited, hy, hor]
        have hih : ((chosenCriteria s (x.key :: seen) xs).flatMap Criterion.selections).Perm
            (xs.filter (awaited (x.key :: seen))) := by
          refine ih fun key hkey => ?_
          have hne : x.key ≠ key := fun heq => hkey (heq ▸ List.mem_cons_self ..)
          rw [h key fun hmem => hkey (List.mem_cons_of_mem _ hmem), List.filter_cons_of_neg (by simp [hne])]
        rw [hgroup]
        rw [hrest] at hih
        exact (hih.append_left _).trans (List.filter_append_perm _ _)

/-- The criteria of a state hold each of its selections once. -/
theorem flatMap_selections_perm (c : Config) (s : SearchState) :
    ((c.criteria s).flatMap Criterion.selections).Perm s.selections := by
  have hranges : (c.rangeCriteria s.ranges).flatMap Criterion.selections = [] := by
    rw [List.flatMap_eq_nil_iff]
    intro k hk
    obtain ⟨r, -, f, -, rfl⟩ := mem_rangeCriteria_iff.1 hk
    rfl
  have htext : (c.textCriteria s).flatMap Criterion.selections = [] := by
    rw [List.flatMap_eq_nil_iff]
    intro k hk
    obtain ⟨q, -, rfl⟩ := mem_textCriteria_iff.1 hk
    rfl
  have hall : s.selections.filter (awaited []) = s.selections := by
    rw [List.filter_eq_self]
    intro x _
    simp [awaited]
  have hperm : ((chosenCriteria s [] s.selections).flatMap Criterion.selections).Perm
      (s.selections.filter (awaited [])) := chosen_selections_perm fun _ _ => rfl
  rw [hall] at hperm
  rw [criteria, List.flatMap_append, List.flatMap_append, hranges, htext, List.append_nil, List.append_nil]
  exact hperm

/-! ### Ranges, texts and groups -/

/-- The criteria of a state hold the ranges on facets that exist, in order. -/
theorem flatMap_ranges_eq (c : Config) (s : SearchState) :
    (c.criteria s).flatMap Criterion.ranges = s.ranges.filter fun r => (c.facets[r.facet]?).isSome := by
  have hchosen : (chosenCriteria s [] s.selections).flatMap Criterion.ranges = [] := by
    rw [List.flatMap_eq_nil_iff]
    intro k hk
    rcases mem_chosenCriteria_iff.1 hk with ⟨x, -, -, rfl⟩ | ⟨x, -, -, -, rfl⟩ <;> rfl
  have htext : (c.textCriteria s).flatMap Criterion.ranges = [] := by
    rw [List.flatMap_eq_nil_iff]
    intro k hk
    obtain ⟨q, -, rfl⟩ := mem_textCriteria_iff.1 hk
    rfl
  rw [criteria, List.flatMap_append, List.flatMap_append, hchosen, htext, List.append_nil, List.nil_append]
  induction s.ranges with
  | nil => rfl
  | cons r rs ih =>
    rw [rangeCriteria] at ih ⊢
    cases hf : c.facets[r.facet]? with
    | none =>
      rw [List.filterMap_cons_none (by rw [hf]; rfl), ih, List.filter_cons_of_neg (by simp [hf])]
    | some f =>
      rw [List.filterMap_cons_some (by rw [hf]; rfl), List.flatMap_cons, ih, List.filter_cons_of_pos (by simp [hf])]
      rfl

/-- The criteria of a state hold its free text, if there is one. -/
theorem filterMap_text?_eq (c : Config) (s : SearchState) :
    (c.criteria s).filterMap Criterion.text? = (c.textQuery? s).toList := by
  have hchosen : (chosenCriteria s [] s.selections ++ c.rangeCriteria s.ranges).filterMap Criterion.text? = [] := by
    rw [List.filterMap_eq_nil_iff]
    intro k hk
    rcases List.mem_append.1 hk with hk | hk
    · rcases mem_chosenCriteria_iff.1 hk with ⟨x, -, -, rfl⟩ | ⟨x, -, -, -, rfl⟩ <;> rfl
    · obtain ⟨r, -, f, -, rfl⟩ := mem_rangeCriteria_iff.1 hk
      rfl
  rw [criteria, List.filterMap_append, hchosen, List.nil_append, textCriteria]
  cases c.textQuery? s <;> rfl

/-- No two criteria of a state are groups of one key. -/
theorem pairwise_apart (c : Config) (s : SearchState) : (c.criteria s).Pairwise Criterion.Apart := by
  have hchosen : ∀ seen xs, (chosenCriteria s seen xs).Pairwise Criterion.Apart := by
    intro seen xs
    induction xs generalizing seen with
    | nil => exact .nil
    | cons x xs ih =>
      cases hl : x.logic with
      | and =>
        rw [chosenCriteria_and hl]
        exact List.pairwise_cons.2 ⟨fun _ _ _ _ _ heq => Criterion.noConfusion heq, ih seen⟩
      | or =>
        by_cases hseen : x.key ∈ seen
        · rw [chosenCriteria_seen hl hseen]
          exact ih seen
        · rw [chosenCriteria_new hl hseen]
          -- the key of the group has been seen then, so no later group has it
          refine List.pairwise_cons.2 ⟨fun l hmem key vs ws hk hgroup => ?_, ih _⟩
          cases hk
          rcases mem_chosenCriteria_iff.1 hmem with ⟨y, -, -, rfl⟩ | ⟨y, -, -, hkey, rfl⟩
          · cases hgroup
          · obtain ⟨hsame, -⟩ := Criterion.oneOf.inj hgroup
            rw [hsame] at hkey
            exact hkey (List.mem_cons_self ..)
  have hrest : ∀ l ∈ c.rangeCriteria s.ranges ++ c.textCriteria s, ∀ key ws, l ≠ .oneOf key ws := by
    intro l hl key ws
    rcases List.mem_append.1 hl with hl | hl
    · obtain ⟨r, -, f, -, rfl⟩ := mem_rangeCriteria_iff.1 hl
      exact Criterion.noConfusion
    · obtain ⟨q, -, rfl⟩ := mem_textCriteria_iff.1 hl
      exact Criterion.noConfusion
  rw [criteria, List.append_assoc, List.pairwise_append]
  refine ⟨hchosen [] _, List.pairwise_of_forall_mem_list fun k hk l _ key vs _ heq => ?_,
    fun k _ l hl key _ ws _ => ?_⟩
  · exact absurd heq (hrest k hk key vs)
  · exact hrest l hl key ws

/-! ### What is recovered -/

theorem mem_recovered_iff {c : Config} {g : Clause → Clause} {s : SearchState} {k : Criterion} :
    k ∈ c.recovered g s ↔ k ∈ c.criteria s ∧ c.skips g s k = false := by
  rw [recovered, List.mem_filter, (walkOrder_perm c s).mem_iff, Bool.not_eq_true']

private theorem sublist_flatMap {α β : Type} {xs ys : List α} (h : xs.Sublist ys) (f : α → List β) :
    (xs.flatMap f).Sublist (ys.flatMap f) := by
  induction h with
  | slnil => exact .slnil
  | cons y _ ih => exact ih.trans (List.sublist_append_right ..)
  | cons_cons y _ ih => exact ih.append_left _

section

variable {c : Config} {s : SearchState} (hs : s.Coherent) (g : Clause → Clause)
include hs

/-- The selections of what is recovered agree. -/
theorem allAgree_recovered : AllAgree ((c.recovered g s).flatMap Criterion.selections) := by
  have hperm := ((walkOrder_perm c s).flatMap_right Criterion.selections).trans (flatMap_selections_perm c s)
  have hall : AllAgree ((c.walkOrder s).flatMap Criterion.selections) :=
    hs.selections.perm hperm.symm fun h => h.symm
  exact hall.sublist (sublist_flatMap List.filter_sublist _)

/-- No facet has two ranges in what is recovered. -/
theorem pairwise_ranges_recovered :
    ((c.recovered g s).flatMap Criterion.ranges).Pairwise fun a b => a.facet ≠ b.facet := by
  have hperm := (walkOrder_perm c s).flatMap_right Criterion.ranges
  rw [flatMap_ranges_eq] at hperm
  have hall : ((c.walkOrder s).flatMap Criterion.ranges).Pairwise fun a b => a.facet ≠ b.facet :=
    (hs.ranges.filter _).perm hperm.symm fun h => h.symm
  exact hall.sublist (sublist_flatMap List.filter_sublist _)

end

/-- No two groups of one key are recovered. -/
theorem pairwise_apart_recovered (c : Config) (s : SearchState) (g : Clause → Clause) :
    (c.recovered g s).Pairwise Criterion.Apart :=
  ((pairwise_apart c s).perm (walkOrder_perm c s).symm fun h => h.symm).sublist List.filter_sublist

/-- The only text that can be recovered is that of the state. -/
theorem text_recovered (c : Config) (s : SearchState) (g : Clause → Clause) :
    ((c.recovered g s).filterMap Criterion.text?).Sublist (c.textQuery? s).toList := by
  have hperm := (walkOrder_perm c s).filterMap Criterion.text?
  rw [filterMap_text?_eq] at hperm
  have heq : (c.walkOrder s).filterMap Criterion.text? = (c.textQuery? s).toList := by
    cases h : c.textQuery? s with
    | none =>
      rw [h] at hperm
      exact hperm.eq_nil
    | some q =>
      rw [h] at hperm
      exact hperm.eq_singleton
  rw [← heq]
  exact List.filter_sublist.filterMap _

end Config

end FacetedSearch
