import FacetedSearch.Proofs.Recover.Order

/-!
# Replaying recovered commands

Carrying out the commands of criteria, one criterion after the other, adds their selections and ranges at the end and
sets their free text, as long as nothing is selected twice.  The criteria of the state that results are the criteria
that were carried out: those of selections first, then those of ranges, then the free text.

* `replayed_commands`: the state after the commands of criteria.
* `kindByKind_replayed`: its criteria.
-/

namespace FacetedSearch

namespace Criterion

/-- The free text and its field after a criterion was carried out. -/
def retext : Criterion → String × Option String → String × Option String
  | .text q, words => (q.text, q.field <|> words.2)
  | _, words => words

/-- Whether a criterion is about selections. -/
def isChosen : Criterion → Bool
  | .one _ | .oneOf _ _ => true
  | _ => false

/-- Whether a criterion is about a range. -/
def isWithin : Criterion → Bool
  | .within _ _ => true
  | _ => false

/-- Whether a criterion is about the free text. -/
def isText : Criterion → Bool
  | .text _ => true
  | _ => false

end Criterion

namespace SearchState

/-- A range on a facet that has none is added at the end. -/
theorem putRange_new {r : FacetRange} {rs : List FacetRange} (h : ∀ x ∈ rs, x.facet ≠ r.facet) :
    putRange r rs = rs ++ [r] := by
  induction rs with
  | nil => rfl
  | cons x xs ih =>
    rw [putRange, if_neg (h x (List.mem_cons_self ..)), ih fun y hy => h y (List.mem_cons_of_mem _ hy)]
    rfl

end SearchState

/-- What carrying out criteria does to a state, the page aside. -/
structure Replayed (s s' : SearchState) (ks : List Criterion) : Prop where
  selections : s'.selections = s.selections ++ ks.flatMap Criterion.selections
  ranges : s'.ranges = s.ranges ++ ks.flatMap Criterion.ranges
  words : (s'.freeText, s'.searchField) = ks.foldl (fun words k => k.retext words) (s.freeText, s.searchField)
  sort : s'.sort = s.sort

namespace Config

/-- The commands of a group select its values one after the other. -/
private theorem replayed_group (c : Config) (key : String) {vs : List Choice} {s : SearchState}
    (h : AllAgree (s.selections ++ (Criterion.oneOf key vs).selections)) :
    Replayed s (c.run s (Criterion.oneOf key vs).commands) [.oneOf key vs] := by
  induction vs generalizing s with
  | nil => exact ⟨(List.append_nil _).symm, (List.append_nil _).symm, rfl, rfl⟩
  | cons v vs ih =>
    let x : Selection := ⟨key, v, .or⟩
    have hnew : ∀ y ∈ s.selections, y.Agree x := fun y hy =>
      (List.pairwise_append.1 h).2.2 y hy _ (List.mem_cons_self ..)
    have hstep : (c.apply s (.addSelection key v (some .or))).1 =
        { s with selections := s.selections ++ [x] }.rewind := SearchState.select_new hnew
    have hagree : AllAgree ((s.selections ++ [x]) ++ (Criterion.oneOf key vs).selections) := by
      rw [List.append_assoc]
      exact h
    have hrun : c.run s (Criterion.oneOf key (v :: vs)).commands =
        c.run { s with selections := s.selections ++ [x] }.rewind (Criterion.oneOf key vs).commands := by
      rw [← hstep]
      rfl
    obtain ⟨hselections, hranges, hwords, hsort⟩ :=
      ih (s := { s with selections := s.selections ++ [x] }.rewind) hagree
    rw [hrun]
    refine ⟨hselections.trans ?_, hranges, hwords, hsort⟩
    show (s.selections ++ [x]) ++ _ = _
    rw [List.append_assoc]
    rfl

private theorem setFreeText_eq (s : SearchState) (text : String) :
    ∃ page, (s.setFreeText text).1 = { s with freeText := text, page } := by
  rw [SearchState.setFreeText]
  split
  · rename_i heq
    exact ⟨s.page, by rw [← heq]⟩
  · exact ⟨_, rfl⟩

private theorem setSearchField_eq (s : SearchState) {field : String} (h : some field ≠ some "") :
    ∃ page, (s.setSearchField (some field)).1 = { s with searchField := some field, page } := by
  have hkept : (some field).filter (fun f => !f.isEmpty) = some field := by
    rw [Option.filter_eq_some_iff, Bool.not_eq_true', String.isEmpty_eq_false_iff]
    exact ⟨rfl, fun hempty => h (congrArg some hempty)⟩
  simp only [SearchState.setSearchField, hkept]
  split
  · rename_i heq
    exact ⟨s.page, by rw [← heq]⟩
  · exact ⟨_, rfl⟩

/-- Carrying out the commands of one criterion. -/
private theorem replayed_criterion {c : Config} {k : Criterion} (hk : k.Valid c) {s : SearchState}
    (hselections : AllAgree (s.selections ++ k.selections))
    (hranges : (s.ranges ++ k.ranges).Pairwise fun a b => a.facet ≠ b.facet) :
    Replayed s (c.run s k.commands) [k] := by
  cases k with
  | one x =>
    have hnew : ∀ y ∈ s.selections, y.Agree x := fun y hy =>
      (List.pairwise_append.1 hselections).2.2 y hy x (List.mem_singleton.2 rfl)
    have hstep : (c.apply s (.addSelection x.key x.value (some .and))).1 =
        { s with selections := s.selections ++ [x] }.rewind := by
      have hselect := SearchState.select_new hnew
      rw [hk.1] at hselect
      exact hselect
    have hrun : c.run s (Criterion.one x).commands = { s with selections := s.selections ++ [x] }.rewind := hstep
    rw [hrun]
    exact ⟨rfl, (List.append_nil _).symm, rfl, rfl⟩
  | oneOf key vs => exact replayed_group c key hselections
  | within r field =>
    have hnew : ∀ y ∈ s.ranges, y.facet ≠ r.facet := fun y hy =>
      (List.pairwise_append.1 hranges).2.2 y hy r (List.mem_singleton.2 rfl)
    have hrun : c.run s (Criterion.within r field).commands = { s with ranges := s.ranges ++ [r] }.rewind := by
      show s.setRange ⟨r.facet, r.low, r.high⟩ = _
      rw [SearchState.setRange, SearchState.putRange_new hnew]
    rw [hrun]
    exact ⟨(List.append_nil _).symm, rfl, rfl, rfl⟩
  | text q =>
    obtain ⟨text, field, operator⟩ := q
    obtain ⟨page, htext⟩ := setFreeText_eq s text
    cases field with
    | none =>
      have hrun : c.run s (Criterion.text ⟨text, none, operator⟩).commands =
          { s with freeText := text, page } := htext
      rw [hrun]
      exact ⟨(List.append_nil _).symm, (List.append_nil _).symm, rfl, rfl⟩
    | some field =>
      obtain ⟨page', hfield⟩ := setSearchField_eq (s.setFreeText text).1 hk.2.2.1
      have hrun : c.run s (Criterion.text ⟨text, some field, operator⟩).commands =
          { s with freeText := text, searchField := some field, page := page' } := by
        rw [htext] at hfield
        show ((s.setFreeText text).1.setSearchField (some field)).1 = _
        rw [htext, hfield]
      rw [hrun]
      exact ⟨(List.append_nil _).symm, (List.append_nil _).symm, rfl, rfl⟩

/-- Carrying out the commands of criteria, one after the other. -/
theorem replayed_commands {c : Config} {ks : List Criterion} (hvalid : ∀ k ∈ ks, k.Valid c) {s : SearchState}
    (hselections : AllAgree (s.selections ++ ks.flatMap Criterion.selections))
    (hranges : (s.ranges ++ ks.flatMap Criterion.ranges).Pairwise fun a b => a.facet ≠ b.facet) :
    Replayed s (c.run s (ks.flatMap Criterion.commands)) ks := by
  induction ks generalizing s with
  | nil => exact ⟨(List.append_nil _).symm, (List.append_nil _).symm, rfl, rfl⟩
  | cons k ks ih =>
    rw [List.flatMap_cons, ← List.append_assoc] at hselections hranges
    have hfirst := replayed_criterion (hvalid k (List.mem_cons_self ..)) (List.pairwise_append.1 hselections).1
      (List.pairwise_append.1 hranges).1
    rw [List.flatMap_cons, run_append]
    generalize c.run s k.commands = s₁ at hfirst
    obtain ⟨hs, hr, hw, ho⟩ := hfirst
    rw [List.flatMap_cons, List.flatMap_nil, List.append_nil] at hs hr
    rw [← hs] at hselections
    rw [← hr] at hranges
    obtain ⟨hs', hr', hw', ho'⟩ := ih (fun l hl => hvalid l (List.mem_cons_of_mem _ hl)) hselections hranges
    refine ⟨?_, ?_, ?_, ho'.trans ho⟩
    · rw [hs', hs, List.flatMap_cons, List.append_assoc]
    · rw [hr', hr, List.flatMap_cons, List.append_assoc]
    · rw [hw', hw]
      rfl

/-! ### The criteria of the state that results -/

/-- What a criterion adds to the alternatives of a key. -/
private def groupOf (key : String) : Criterion → List Choice
  | .oneOf key' vs => if key' = key then vs else []
  | _ => []

private theorem alternatives_selections {c : Config} {k : Criterion} (hk : k.Valid c) (key : String) :
    ((k.selections.filter fun x => x.key == key).filter fun x => x.logic == .or).map (fun x => x.value) =
      groupOf key k := by
  cases k with
  | one x =>
    have hand : x.logic = .and := hk.1
    by_cases hkey : x.key = key <;> simp [Criterion.selections, groupOf, hand, hkey]
  | oneOf key' vs =>
    rw [Criterion.selections, groupOf]
    clear hk
    by_cases hkey : key' = key
    · rw [if_pos hkey]
      induction vs with
      | nil => rfl
      | cons v vs ih => simpa [hkey] using ih
    · rw [if_neg hkey, List.map_eq_nil_iff, List.filter_eq_nil_iff]
      intro x hx
      obtain ⟨hmem, hsame⟩ := List.mem_filter.1 hx
      obtain ⟨v, -, rfl⟩ := List.mem_map.1 hmem
      exact absurd (beq_iff_eq.1 hsame) hkey
  | within _ _ | text _ => rfl

/-- The alternatives of a group are its own values when no other group has its key. -/
private theorem alternatives_eq_group {c : Config} {ks : List Criterion} (hvalid : ∀ k ∈ ks, k.Valid c)
    (hapart : ks.Pairwise Criterion.Apart) {s : SearchState} (hs : s.selections = ks.flatMap Criterion.selections)
    {key : String} {vs : List Choice} (hmem : .oneOf key vs ∈ ks) : s.alternatives key = vs := by
  have hall : s.alternatives key = ks.flatMap (groupOf key) := by
    rw [SearchState.alternatives, SearchState.selectionsFor, hs, List.filter_flatMap, List.filter_flatMap,
      List.map_flatMap]
    clear hapart hs hmem
    induction ks with
    | nil => rfl
    | cons k ks ih =>
      rw [List.flatMap_cons, List.flatMap_cons, alternatives_selections (hvalid k (List.mem_cons_self ..)),
        ih fun l hl => hvalid l (List.mem_cons_of_mem _ hl)]
  have hnone : ∀ ls : List Criterion, (∀ l ∈ ls, ∀ ws, l ≠ .oneOf key ws) → ls.flatMap (groupOf key) = [] := by
    intro ls hls
    rw [List.flatMap_eq_nil_iff]
    intro l hl
    cases l with
    | oneOf key' ws => exact if_neg fun heq => hls _ hl ws (by rw [heq])
    | _ => rfl
  rw [hall]
  clear hall hs hvalid
  induction ks with
  | nil => cases hmem
  | cons k ks ih =>
    obtain ⟨hhead, htail⟩ := List.pairwise_cons.1 hapart
    rw [List.flatMap_cons]
    rcases List.mem_cons.1 hmem with rfl | hmem
    · rw [hnone ks fun l hl ws => hhead l hl key vs ws rfl, List.append_nil]
      exact if_pos rfl
    · have hk : groupOf key k = [] := by
        have happart := hnone [k] fun l hl ws heq => by
          rw [List.mem_singleton.1 hl] at heq
          exact hhead _ hmem key ws vs heq rfl
        rw [List.flatMap_cons, List.flatMap_nil, List.append_nil] at happart
        exact happart
      rw [hk, ih htail hmem]
      rfl

/-- Once a key has been seen, its other alternatives are passed over. -/
private theorem chosenCriteria_group (s : SearchState) {seen : List String} {key : String} (h : key ∈ seen)
    (vs : List Choice) (xs : List Selection) :
    chosenCriteria s seen (vs.map (fun v => ⟨key, v, .or⟩) ++ xs) = chosenCriteria s seen xs := by
  induction vs with
  | nil => rfl
  | cons v vs ih =>
    rw [List.map_cons, List.cons_append, chosenCriteria_seen rfl h]
    exact ih

/-- The criteria of selections in a row are the criteria that the selections came from. -/
private theorem chosenCriteria_flatMap {c : Config} {s : SearchState} {ks : List Criterion} {seen : List String}
    (hvalid : ∀ k ∈ ks, k.Valid c) (hapart : ks.Pairwise Criterion.Apart)
    (hgroup : ∀ key vs, .oneOf key vs ∈ ks → s.alternatives key = vs ∧ key ∉ seen) :
    chosenCriteria s seen (ks.flatMap Criterion.selections) = ks.filter Criterion.isChosen := by
  induction ks generalizing seen with
  | nil => rfl
  | cons k ks ih =>
    obtain ⟨hhead, htail⟩ := List.pairwise_cons.1 hapart
    have hrest := fun l hl => hvalid l (List.mem_cons_of_mem k hl)
    have hgroups := fun key vs hmem => hgroup key vs (List.mem_cons_of_mem k hmem)
    rw [List.flatMap_cons]
    cases k with
    | one x =>
      have hand : x.logic = .and := (hvalid _ (List.mem_cons_self ..)).1
      rw [List.filter_cons_of_pos rfl, ← ih hrest htail hgroups]
      exact chosenCriteria_and hand
    | oneOf key vs =>
      obtain ⟨halternatives, hnew⟩ := hgroup key vs (List.mem_cons_self ..)
      rw [List.filter_cons_of_pos rfl]
      -- the first value opens the group of the key, and the walk passes over the others
      cases vs with
      | nil => exact absurd rfl (hvalid _ (List.mem_cons_self ..)).1
      | cons v vs =>
        have hfirst : chosenCriteria s seen (⟨key, v, .or⟩ :: (vs.map (fun v => ⟨key, v, .or⟩) ++
            ks.flatMap Criterion.selections)) = .oneOf key (s.alternatives key) :: chosenCriteria s (key :: seen)
              (vs.map (fun v => ⟨key, v, .or⟩) ++ ks.flatMap Criterion.selections) := chosenCriteria_new rfl hnew
        refine hfirst.trans ?_
        rw [halternatives, chosenCriteria_group s (List.mem_cons_self ..)]
        congr 1
        refine ih hrest htail fun key' ws hmem => ⟨(hgroups key' ws hmem).1, fun hseen => ?_⟩
        rcases List.mem_cons.1 hseen with rfl | hseen
        · exact hhead _ hmem _ _ _ rfl rfl
        · exact (hgroups key' ws hmem).2 hseen
    | within r field => exact ih hrest htail hgroups
    | text q => exact ih hrest htail hgroups

private theorem rangeCriteria_flatMap {c : Config} {ks : List Criterion} (hvalid : ∀ k ∈ ks, k.Valid c) :
    c.rangeCriteria (ks.flatMap Criterion.ranges) = ks.filter Criterion.isWithin := by
  induction ks with
  | nil => rfl
  | cons k ks ih =>
    have ih := ih fun l hl => hvalid l (List.mem_cons_of_mem _ hl)
    rw [List.flatMap_cons]
    cases k with
    | within r field =>
      obtain ⟨f, hf, rfl⟩ := hvalid _ (List.mem_cons_self ..)
      rw [List.filter_cons_of_pos rfl, ← ih, rangeCriteria, Criterion.ranges, List.cons_append, List.nil_append,
        List.filterMap_cons_some (by rw [hf]; rfl)]
      rfl
    | _ => exact ih

private theorem foldl_retext (ks : List Criterion) (words : String × Option String) :
    ks.foldl (fun words k => k.retext words) words =
      (ks.filterMap Criterion.text?).foldl (fun words q => (q.text, q.field <|> words.2)) words := by
  induction ks generalizing words with
  | nil => rfl
  | cons k ks ih =>
    rw [List.foldl_cons, ih]
    cases k <;> rfl

private theorem filter_isText (ks : List Criterion) :
    ks.filter Criterion.isText = (ks.filterMap Criterion.text?).map .text := by
  induction ks with
  | nil => rfl
  | cons k ks ih =>
    cases k with
    | text q =>
      rw [List.filter_cons_of_pos rfl, ih]
      rfl
    | _ =>
      rw [List.filter_cons_of_neg Bool.false_ne_true, ih]
      rfl

/-- A text that was recovered is the text query of the state that results. -/
private theorem textCriteria_replayed {c : Config} {ks : List Criterion} (hvalid : ∀ k ∈ ks, k.Valid c)
    (htext : (ks.filterMap Criterion.text?).length ≤ 1) {s : SearchState}
    (hwords : (s.freeText, s.searchField) = ks.foldl (fun words k => k.retext words) ("", none)) :
    c.textCriteria s = ks.filter Criterion.isText := by
  rw [foldl_retext] at hwords
  rw [filter_isText, textCriteria]
  congr 1
  cases htexts : ks.filterMap Criterion.text? with
  | nil =>
    rw [htexts] at hwords
    have hblank : s.freeText = "" := congrArg Prod.fst hwords
    rw [textQuery?, hblank, if_pos (by decide)]
    rfl
  | cons q qs =>
    have hqs : qs = [] := by
      rw [htexts] at htext
      exact List.length_eq_zero_iff.1 (Nat.le_zero.1 (Nat.le_of_succ_le_succ htext))
    have hmem : Criterion.text q ∈ ks := by
      have hq : q ∈ ks.filterMap Criterion.text? := by
        rw [htexts]
        exact List.mem_cons_self ..
      obtain ⟨k, hk, hkq⟩ := List.mem_filterMap.1 hq
      cases k <;> cases hkq
      exact hk
    obtain ⟨hblank, hfuzzy, -, hoperator⟩ := hvalid _ hmem
    rw [htexts, hqs] at hwords
    have hfree : s.freeText = q.text := congrArg Prod.fst hwords
    have hfield : s.searchField = q.field := by
      have hsecond : s.searchField = (q.field <|> none) := congrArg Prod.snd hwords
      rw [hsecond]
      cases q.field <;> rfl
    rw [hqs, textQuery?, hfree, hblank, hfield, hfuzzy, ← hoperator]
    rfl

/-- The criteria of a state are these, kind by kind. -/
structure KindByKind (c : Config) (s : SearchState) (ks : List Criterion) : Prop where
  chosen : chosenCriteria s [] s.selections = ks.filter Criterion.isChosen
  within : c.rangeCriteria s.ranges = ks.filter Criterion.isWithin
  text : c.textCriteria s = ks.filter Criterion.isText

/-- The criteria of a state that holds no more than the selections, ranges and texts of criteria are these. -/
theorem kindByKind_replayed {c : Config} {ks : List Criterion} (hvalid : ∀ k ∈ ks, k.Valid c)
    (hapart : ks.Pairwise Criterion.Apart) (htext : (ks.filterMap Criterion.text?).length ≤ 1) {s : SearchState}
    (hselections : s.selections = ks.flatMap Criterion.selections)
    (hranges : s.ranges = ks.flatMap Criterion.ranges)
    (hwords : (s.freeText, s.searchField) = ks.foldl (fun words k => k.retext words) ("", none)) :
    KindByKind c s ks := by
  refine ⟨?_, ?_, textCriteria_replayed hvalid htext hwords⟩
  · rw [hselections]
    exact chosenCriteria_flatMap hvalid hapart fun key vs hmem =>
      ⟨alternatives_eq_group hvalid hapart hselections hmem, List.not_mem_nil⟩
  · rw [hranges]
    exact rangeCriteria_flatMap hvalid

theorem KindByKind.mem_criteria_iff {c : Config} {s : SearchState} {ks : List Criterion} (h : KindByKind c s ks)
    {k : Criterion} : k ∈ c.criteria s ↔ k ∈ ks := by
  rw [criteria, h.chosen, h.within, h.text]
  simp only [List.mem_append, List.mem_filter]
  constructor
  · rintro ((⟨hk, -⟩ | ⟨hk, -⟩) | ⟨hk, -⟩) <;> exact hk
  · intro hk
    cases k with
    | one x => exact Or.inl (Or.inl ⟨hk, rfl⟩)
    | oneOf key vs => exact Or.inl (Or.inl ⟨hk, rfl⟩)
    | within r field => exact Or.inl (Or.inr ⟨hk, rfl⟩)
    | text q => exact Or.inr ⟨hk, rfl⟩

/-! ### The page -/

/-- Written sort keys are read as they were. -/
theorem readSortKeys (sort : List SortKey) : (sort.map SortKey.toJson).filterMap SortKey.ofJson? = sort := by
  induction sort with
  | nil => rfl
  | cons k ks ih =>
    have hdirection : ∀ d : Direction, SortKey.readDirection d.name = some d := by
      intro d
      cases d <;> decide
    have hk : SortKey.ofJson? k.toJson = some k := by
      simp [SortKey.ofJson?, SortKey.toJson, Json.keyed, Entries.get?_cons, Json.str?, hdirection]
    rw [List.map_cons, List.filterMap_cons_some hk, ih]

/-- The commands for the page and the sort keys change nothing else. -/
theorem run_page (c : Config) (s : SearchState) (sort : List SortKey) (size offset : Option Nat) :
    ∃ page, c.run s (recoverSort (sort.map SortKey.toJson) ++ (size.map .setPageSize).toList ++
        (offset.map .setPage).toList) =
      { s with sort := if sort = [] then s.sort else sort, page } := by
  have hsort : ∃ page, c.run s (recoverSort (sort.map SortKey.toJson)) =
      { s with sort := if sort = [] then s.sort else sort, page } := by
    cases sort with
    | nil => exact ⟨s.page, rfl⟩
    | cons k ks =>
      have hcmd : recoverSort ((k :: ks).map SortKey.toJson) =
          [.setSort (((k :: ks).map SortKey.toJson).filterMap SortKey.ofJson?)] := rfl
      rw [hcmd, readSortKeys, if_neg nofun]
      show ∃ page, (s.setSort (k :: ks)).1 = _
      rw [SearchState.setSort]
      split
      · rename_i heq
        exact ⟨s.page, by rw [← heq]⟩
      · exact ⟨_, rfl⟩
  obtain ⟨page, hsort⟩ := hsort
  rw [run_append, run_append, hsort]
  cases size <;> cases offset <;> exact ⟨_, rfl⟩

end Config

end FacetedSearch
