import FacetedSearch.Proofs.Selection.ChoiceMap
import FacetedSearch.Proofs.Selection.Coherent
import FacetedSearch.Proofs.Selection.Unchanged

/-!
# States and their choices

A state keeps its selections in a list and repeats the logic of a key in each of them.  Read as a map, a coherent
state is the map that its commands build.

* `SearchState.choices`: the map of a state, read with the look-ups that the searches use.
* `mem_select`, `mem_deselect`, `mem_toggleLogic`: what stands in the list after a change.
* `selections_deselect`: dropping a value closes up the list.
* `choices_apply`: every command changes the map of a coherent state as it changes maps.
* `run_choices`: the map after any commands.
-/

namespace FacetedSearch

namespace SearchState

/-- The choices of a state. -/
def choices (s : SearchState) : ChoiceMap where
  keys key := (s.keyLogic key).bind (KeyChoices.of? · ((s.selectionsFor key).map (·.value)).toFinset)
  bounds facet := (s.ranges.find? (·.facet == facet)).map fun r => (r.low, r.high)

variable {s : SearchState} {x : Selection} {key : String} {v : Choice} {l : Logic}

/-! ### Looking up -/

theorem isSelected_iff : s.isSelected key v = true ↔ ∃ l, ⟨key, v, l⟩ ∈ s.selections := by
  rw [isSelected, List.any_eq_true]
  constructor
  · rintro ⟨⟨k, w, l⟩, hx, hboth⟩
    simp only [Bool.and_eq_true, beq_iff_eq] at hboth
    obtain ⟨rfl, rfl⟩ := hboth
    exact ⟨l, hx⟩
  · rintro ⟨l, hx⟩
    exact ⟨_, hx, by simp⟩

theorem mem_selectionsFor_values_iff :
    v ∈ (s.selectionsFor key).map (·.value) ↔ s.isSelected key v = true := by
  simp only [selectionsFor, isSelected, List.mem_map, List.mem_filter, List.any_eq_true, Bool.and_eq_true, beq_iff_eq,
    and_assoc]

/-- A selection of a coherent state is given by its key and value; its logic is that of the key. -/
theorem Coherent.mem_iff (h : s.Coherent) :
    x ∈ s.selections ↔ s.keyLogic x.key = some x.logic ∧ s.isSelected x.key x.value = true := by
  constructor
  · intro hx
    refine ⟨?_, isSelected_iff.2 ⟨x.logic, hx⟩⟩
    cases hl : s.keyLogic x.key with
    | none => exact absurd rfl (not_mem_of_keyLogic_none hl x hx)
    | some l => rw [h.logic_eq hl x hx rfl]
  · rintro ⟨hlogic, hselected⟩
    obtain ⟨l, hx⟩ := isSelected_iff.1 hselected
    have hl : l = x.logic := h.logic_eq hlogic _ hx rfl
    rwa [hl] at hx

theorem Coherent.holds_choices (h : s.Coherent) : s.choices.Holds key v l ↔ ⟨key, v, l⟩ ∈ s.selections := by
  rw [h.mem_iff]
  cases hl : s.keyLogic key with
  | none =>
    refine iff_of_false (fun ⟨e, he, _⟩ => ?_) nofun
    simp [choices, hl] at he
  | some l' =>
    have hkey : s.choices.keys key = KeyChoices.of? l' ((s.selectionsFor key).map (·.value)).toFinset := by
      simp [choices, hl]
    rw [ChoiceMap.holds_of_keys hkey, List.mem_toFinset, mem_selectionsFor_values_iff, Option.some.injEq, eq_comm]

theorem Coherent.bounds_choices (h : s.Coherent) {facet : Nat} {low high : String} :
    s.choices.bounds facet = some (low, high) ↔ ⟨facet, low, high⟩ ∈ s.ranges := by
  have hone : ∀ x ∈ s.ranges, ∀ y ∈ s.ranges, x.facet = y.facet → x = y := fun x hx y hy =>
    List.Pairwise.forall_of_forall_of_flip (R := fun x y : FacetRange => x.facet = y.facet → x = y)
      (fun _ _ _ => rfl) (h.ranges.imp fun hne heq => absurd heq hne)
      (h.ranges.imp fun hne heq => absurd heq.symm hne) hx hy
  rw [choices, Option.map_eq_some_iff]
  constructor
  · rintro ⟨⟨facet', low', high'⟩, hfind, hpair⟩
    obtain ⟨rfl, rfl⟩ := Prod.mk.inj hpair
    have hfacet : facet' = facet := by simpa using List.find?_some hfind
    exact hfacet ▸ List.mem_of_find?_eq_some hfind
  · intro hr
    cases hfind : s.ranges.find? (·.facet == facet) with
    | none => exact absurd (beq_self_eq_true facet) (List.find?_eq_none.1 hfind _ hr)
    | some r =>
      have hfacet : r.facet = facet := by simpa using List.find?_some hfind
      exact ⟨r, rfl, by rw [hone r (List.mem_of_find?_eq_some hfind) _ hr hfacet]⟩

theorem Coherent.logic?_choices (h : s.Coherent) : s.choices.logic? key = s.keyLogic key := by
  ext l
  simp only [ChoiceMap.logic?_eq_some_iff, h.holds_choices]
  constructor
  · rintro ⟨v, hx⟩
    exact (h.mem_iff.1 hx).1
  · intro hl
    obtain ⟨y, hfind, rfl⟩ := Option.map_eq_some_iff.1 hl
    have hkey : y.key = key := by simpa using List.find?_some hfind
    exact ⟨y.value, hkey ▸ List.mem_of_find?_eq_some hfind⟩

/-! ### The list after a change -/

/-- One logic for a key: its values stay, and every other key stays as it is. -/
private theorem mem_withLogic_iff {xs : List Selection} :
    x ∈ withLogic key l xs ↔
      if x.key = key then x.logic = l ∧ ∃ l', { x with logic := l' } ∈ xs else x ∈ xs := by
  rw [withLogic, List.mem_map]
  constructor
  · rintro ⟨y, hy, rfl⟩
    by_cases hkey : y.key = key
    · simp only [beq_iff_eq, hkey, if_true]
      exact ⟨trivial, y.logic, hkey ▸ hy⟩
    · simpa only [beq_iff_eq, hkey, if_false] using hy
  · split
    · rename_i hkey
      rintro ⟨rfl, l', hx⟩
      exact ⟨_, hx, by rw [if_pos (beq_iff_eq.2 hkey)]⟩
    · rename_i hkey
      exact fun hx => ⟨x, hx, by rw [if_neg fun heq => hkey (beq_iff_eq.1 heq)]⟩

theorem Coherent.mem_toggleLogic (h : s.Coherent) :
    x ∈ (s.toggleLogic key).1.selections ↔
      { x with logic := if x.key = key then x.logic.flip else x.logic } ∈ s.selections := by
  rw [SearchState.toggleLogic]
  cases hl : s.keyLogic key with
  | none =>
    have hne := not_mem_of_keyLogic_none hl
    by_cases hkey : x.key = key
    · exact iff_of_false (fun hx => hne x hx hkey) fun hx => hne _ hx hkey
    · rw [if_neg hkey]
  | some l =>
    change x ∈ withLogic key l.flip s.selections ↔ _
    rw [mem_withLogic_iff]
    split
    · rename_i hkey
      constructor
      · rintro ⟨hlogic, l', hx⟩
        have hl' : l' = l := h.logic_eq hl _ hx hkey
        rw [hlogic, Logic.flip_eq_iff.2 rfl]
        exact hl' ▸ hx
      · intro hx
        exact ⟨Logic.flip_eq_iff.1 (h.logic_eq hl _ hx hkey), _, hx⟩
    · rfl

/-- Of entries no two of which are meant, erasing the first that is meant erases all of them. -/
private theorem eraseP_eq_filter {α : Type} {p : α → Bool} {xs : List α}
    (h : xs.Pairwise fun x y => p x = true → p y = false) : xs.eraseP p = xs.filter (!p ·) := by
  induction xs with
  | nil => rfl
  | cons x xs ih =>
    obtain ⟨hx, hxs⟩ := List.pairwise_cons.1 h
    by_cases hp : p x
    · have hrest : ∀ y ∈ xs, (!p y) = true := fun y hy => by simp [hx y hy hp]
      rw [List.eraseP_cons_of_pos hp, List.filter_cons_of_neg (by simp [hp]), List.filter_eq_self.2 hrest]
    · rw [List.eraseP_cons_of_neg hp, List.filter_cons_of_pos (by simp [hp]), ih hxs]

theorem Coherent.selections_deselect (h : s.Coherent) (v : Choice) :
    (s.deselect key v).1.selections = s.selections.filter fun x => ¬(x.key = key ∧ x.value = v) := by
  have hagree : s.selections.Pairwise fun x y =>
      (x.key == key && x.value == v) = true → (y.key == key && y.value == v) = false := by
    refine h.selections.imp fun {x y} hxy hx => ?_
    obtain ⟨hkey, hvalue⟩ : x.key = key ∧ x.value = v := by simpa using hx
    rw [Bool.eq_false_iff]
    intro hy
    obtain ⟨hykey, hyvalue⟩ : y.key = key ∧ y.value = v := by simpa using hy
    exact (hxy (hkey.trans hykey.symm)).2 (hvalue.trans hyvalue.symm)
  have hfilter : s.selections.eraseP (fun x => x.key == key && x.value == v) =
      s.selections.filter fun x => ¬(x.key = key ∧ x.value = v) := by
    rw [eraseP_eq_filter hagree]
    exact List.filter_congr fun x _ => by simp [Bool.beq_eq_decide_eq]
  rw [SearchState.deselect]
  split
  · exact hfilter
  · rename_i habsent
    rw [← hfilter, List.eraseP_of_forall_not]
    exact fun x hx hx' => habsent (List.any_eq_true.2 ⟨x, hx, hx'⟩)

theorem Coherent.mem_deselect (h : s.Coherent) :
    x ∈ (s.deselect key v).1.selections ↔ x ∈ s.selections ∧ ¬(x.key = key ∧ x.value = v) := by
  rw [h.selections_deselect, List.mem_filter, decide_eq_true_eq]

private theorem Coherent.mem_switched (h : s.Coherent) :
    x ∈ s.switched key l ↔
      if x.key = key then x.logic = l ∧ s.isSelected key x.value = true else x ∈ s.selections := by
  rw [switched]
  by_cases hother : s.keyLogic key = some l.flip
  · rw [if_pos (beq_iff_eq.2 hother), mem_withLogic_iff]
    split
    · rename_i hkey
      rw [isSelected_iff, ← hkey]
    · rfl
  · rw [if_neg fun heq => hother (beq_iff_eq.1 heq), h.mem_iff]
    split
    · rename_i hkey
      rw [hkey, and_congr_left_iff]
      intro hselected
      -- a key with a selection has a logic, and this is not the other one
      obtain ⟨l', hy⟩ := isSelected_iff.1 hselected
      have hl' : s.keyLogic key = some l' := (h.mem_iff.1 hy).1
      have hl : l' = l := by
        rw [hl'] at hother
        cases l <;> cases l' <;> simp_all [Logic.flip]
      rw [hl', hl, Option.some.injEq, eq_comm]
    · rfl

theorem Coherent.mem_select (h : s.Coherent) :
    x ∈ (s.select key v l).1.selections ↔
      if x.key = key then x.logic = l ∧ (s.isSelected key x.value = true ∨ x.value = v) else x ∈ s.selections := by
  rw [selections_select]
  cases hpresent : s.isSelected key v with
  | true =>
    have habsorbed : s.isSelected key x.value = true ∨ x.value = v ↔ s.isSelected key x.value = true :=
      or_iff_left_of_imp fun hvalue => hvalue ▸ hpresent
    rw [if_pos rfl, h.mem_switched, habsorbed]
  | false =>
    rw [if_neg Bool.false_ne_true, List.mem_append, h.mem_switched, List.mem_singleton]
    obtain ⟨k, w, l'⟩ := x
    by_cases hkey : k = key
    · simp only [hkey, if_true, Selection.mk.injEq, true_and, and_or_left, and_comm]
    · simp only [hkey, if_false, Selection.mk.injEq, false_and, or_false]

/-! ### Ranges after a change -/

variable {r q : FacetRange}

private theorem mem_clearRange_iff {facet : Nat} :
    q ∈ (s.clearRange facet).1.ranges ↔ q ∈ s.ranges ∧ q.facet ≠ facet := by
  have hkept : q ∈ s.ranges.filter (·.facet != facet) ↔ q ∈ s.ranges ∧ q.facet ≠ facet := by simp
  rw [← hkept]
  simp only [clearRange]
  split
  · rename_i hlength
    rw [List.filter_eq_self.2 (List.length_filter_eq_length_iff.1 hlength)]
  · rfl

/-! ### The map after a change -/

/-- A state has a map when its lists hold just what the map holds. -/
theorem Coherent.choices_eq (h : s.Coherent) {m : ChoiceMap}
    (hkeys : ∀ key v l, ⟨key, v, l⟩ ∈ s.selections ↔ m.Holds key v l)
    (hbounds : ∀ facet low high, ⟨facet, low, high⟩ ∈ s.ranges ↔ m.bounds facet = some (low, high)) :
    s.choices = m :=
  ChoiceMap.ext_holds (fun key v l => h.holds_choices.trans (hkeys key v l))
    fun facet low high => h.bounds_choices.trans (hbounds facet low high)

theorem Coherent.choices_select (h : s.Coherent) (key : String) (v : Choice) (l : Logic) :
    (s.select key v l).1.choices = s.choices.insert key l {v} := by
  have hranges : (s.select key v l).1.ranges = s.ranges := by
    simp only [SearchState.select]
    split <;> rfl
  refine (h.select key v l).choices_eq (fun k w l' => ?_) fun _ _ _ => hranges ▸ h.bounds_choices.symm
  have hvalues : w ∈ s.choices.values key ↔ s.isSelected key w = true := by
    simp only [ChoiceMap.mem_values_iff, h.holds_choices, isSelected_iff]
  rw [h.mem_select, ChoiceMap.holds_insert, hvalues, Finset.mem_singleton, h.holds_choices]

theorem Coherent.choices_deselect (h : s.Coherent) (key : String) (v : Choice) :
    (s.deselect key v).1.choices = s.choices.delete key {v} := by
  have hranges : (s.deselect key v).1.ranges = s.ranges := by
    rw [SearchState.deselect]
    split <;> rfl
  refine (h.deselect key v).choices_eq (fun k w l => ?_) fun _ _ _ => hranges ▸ h.bounds_choices.symm
  rw [h.mem_deselect, ChoiceMap.holds_delete, h.holds_choices, Finset.mem_singleton]

theorem Coherent.choices_toggleLogic (h : s.Coherent) (key : String) :
    (s.toggleLogic key).1.choices = s.choices.flip key := by
  have hranges : (s.toggleLogic key).1.ranges = s.ranges := by
    rw [SearchState.toggleLogic]
    split <;> rfl
  refine (h.toggleLogic key).choices_eq (fun k w l => ?_) fun _ _ _ => hranges ▸ h.bounds_choices.symm
  rw [h.mem_toggleLogic, ChoiceMap.holds_flip, h.holds_choices]

theorem Coherent.choices_setRange (h : s.Coherent) (facet : Nat) (low high : String) :
    (s.setRange ⟨facet, low, high⟩).choices = s.choices.bound facet low high := by
  refine (h.setRange _).choices_eq (fun _ _ _ => h.holds_choices.symm) fun facet' low' high' => ?_
  change _ ∈ putRange _ _ ↔ _
  rw [mem_putRange_iff h.ranges, ChoiceMap.bounds_bound]
  split
  · rename_i hfacet
    simp [hfacet, eq_comm]
  · rename_i hfacet
    simp [hfacet, h.bounds_choices]

theorem Coherent.choices_clearRange (h : s.Coherent) (facet : Nat) :
    (s.clearRange facet).1.choices = s.choices.unbound facet := by
  have hselections : (s.clearRange facet).1.selections = s.selections := by
    simp only [SearchState.clearRange]
    split <;> rfl
  refine (h.clearRange facet).choices_eq (fun _ _ _ => hselections ▸ h.holds_choices.symm) fun facet' low high => ?_
  rw [mem_clearRange_iff, ChoiceMap.bounds_unbound]
  split
  · rename_i hfacet
    simp [hfacet]
  · rename_i hfacet
    simp [hfacet, h.bounds_choices]

/-- After the first leaf the key has the logic of the leaves, so each further one adds to what is there. -/
theorem Coherent.choices_selectLeaves (h : s.Coherent) {key : String} {l : Logic}
    (hl : ∀ l', s.keyLogic key = some l' → l' = l) (leaves : List String) :
    (Config.forEachLeaf (fun s leaf => s.select key (.ofText leaf) l) s leaves).1.choices =
      s.choices.insert key l (leaves.map Choice.ofText).toFinset := by
  rw [Config.forEachLeaf_fst]
  induction leaves generalizing s with
  | nil => exact (ChoiceMap.insert_empty fun l' hl' => hl l' (h.logic?_choices ▸ hl')).symm
  | cons leaf leaves ih =>
    have hfirst := h.select key (.ofText leaf) l
    have hmap := h.choices_select key (.ofText leaf) l
    have hlogic : (s.select key (.ofText leaf) l).1.keyLogic key = some l := by
      rw [← hfirst.logic?_choices, hmap]
      exact ChoiceMap.logic?_insert (Finset.singleton_nonempty _)
    rw [List.foldl_cons, ih hfirst fun l' hl' => Option.some.inj (hl'.symm.trans hlogic), hmap,
      ChoiceMap.insert_insert, ← Finset.insert_eq, ← List.toFinset_cons, ← List.map_cons]

theorem Coherent.choices_deselectLeaves (h : s.Coherent) (key : String) (leaves : List String) :
    (Config.forEachLeaf (fun s leaf => s.deselect key (.ofText leaf)) s leaves).1.choices =
      s.choices.delete key (leaves.map Choice.ofText).toFinset := by
  rw [Config.forEachLeaf_fst]
  induction leaves generalizing s with
  | nil => exact ChoiceMap.delete_empty.symm
  | cons leaf leaves ih =>
    rw [List.foldl_cons, ih (h.deselect key (.ofText leaf)), h.choices_deselect, ChoiceMap.delete_delete,
      ← Finset.insert_eq, ← List.toFinset_cons, ← List.map_cons]

/-! ### Commands -/

theorem Coherent.resolveLogic_eq (h : s.Coherent) (c : Config) (key : String) (requested : Option Logic) :
    c.resolveLogic s key requested = c.chosenLogic s.choices key requested := by
  rw [Config.resolveLogic, Config.chosenLogic, h.logic?_choices]

/-- Every command changes the map of a state as it changes maps. -/
theorem Coherent.choices_apply (h : s.Coherent) (c : Config) (cmd : Command) :
    (c.apply s cmd).1.choices = c.choose s.choices cmd := by
  cases cmd with
  | addSelection key v requested =>
    rw [Config.choose, ← h.resolveLogic_eq]
    exact h.choices_select key v _
  | removeSelection key v => exact h.choices_deselect key v
  | toggleKeyLogic key => exact h.choices_toggleLogic key
  | setRange facet low high => exact h.choices_setRange facet low high
  | clearRange facet => exact h.choices_clearRange facet
  | setFreeText text =>
    simp only [Config.apply, SearchState.setFreeText]
    split <;> rfl
  | setSearchField field =>
    simp only [Config.apply, SearchState.setSearchField]
    split <;> rfl
  | setSort sort =>
    simp only [Config.apply, SearchState.setSort]
    split <;> rfl
  | setPage _ | setPageSize _ | nextPage | previousPage | cycleFacetOrder _ => rfl
  | selectNode facet path =>
    rw [Config.apply, Config.choose, Config.nodeLeaves?_eq]
    cases c.node? facet path with
    | none => rfl
    | some node =>
      obtain ⟨key, t⟩ := node
      have hkept : ∀ l, s.keyLogic key = some l → l = c.resolveLogic s key none := fun l hl => by
        rw [Config.resolveLogic, hl]
        rfl
      change _ = s.choices.insert key (c.chosenLogic s.choices key none) t.choices
      rw [← h.resolveLogic_eq]
      exact h.choices_selectLeaves hkept t.leaves
  | deselectNode facet path =>
    rw [Config.apply, Config.choose, Config.nodeLeaves?_eq]
    cases c.node? facet path with
    | none => rfl
    | some node => exact h.choices_deselectLeaves node.1 node.2.leaves
  | clear => rfl

end SearchState

namespace Config

/-- The map after commands, from any coherent state. -/
theorem choices_run {c : Config} {s : SearchState} (h : s.Coherent) (cmds : List Command) :
    (c.run s cmds).choices = cmds.foldl c.choose s.choices := by
  induction cmds generalizing s with
  | nil => rfl
  | cons cmd cmds ih =>
    rw [List.foldl_cons, ← h.choices_apply c cmd]
    exact ih (h.apply c cmd)

end Config

/-- After any commands from an empty state, no value of a key is selected twice, all selections of a key have one logic,
no term is the text for missing values, no facet has two ranges and no free text is restricted to a field without a
name; and the state is, as a map, what the same commands make of the empty map.  The offsets of pages are taken to be
64-bit numbers; nothing here depends on them. -/
theorem run_refines_choices (c : Config) (page : Page) (cmds : List Command)
    (htext : ∀ cmd ∈ cmds, cmd.FromText) :
    ((c.run (.start page) cmds).selections.Pairwise fun x y => ¬(x.key = y.key ∧ x.value = y.value)) ∧
      (∀ x ∈ (c.run (.start page) cmds).selections, ∀ y ∈ (c.run (.start page) cmds).selections,
        x.key = y.key → x.logic = y.logic) ∧
      (∀ x ∈ (c.run (.start page) cmds).selections, x.value ≠ .term undefinedText) ∧
      ((c.run (.start page) cmds).ranges.Pairwise fun a b => a.facet ≠ b.facet) ∧
      (c.run (.start page) cmds).searchField ≠ some "" ∧
      (c.run (.start page) cmds).choices = cmds.foldl c.choose .empty := by
  have hempty : (SearchState.start page).Coherent := ⟨.nil, .nil, nofun⟩
  have hrun : (c.run (.start page) cmds).Coherent :=
    Config.run_preserves (P := SearchState.Coherent) (fun _ cmd _ hs => hs.apply c cmd) hempty
  have hreadable : (c.run (.start page) cmds).Readable :=
    Config.run_preserves (P := SearchState.Readable) (fun _ cmd hcmd hs => hs.apply c (htext cmd hcmd)) nofun
  refine ⟨hrun.selections.imp fun hagree hboth => (hagree hboth.1).2 hboth.2, fun x hx y hy hkey => ?_, hreadable,
    hrun.ranges, hrun.field, Config.choices_run hempty cmds⟩
  have hx := (hrun.mem_iff.1 hx).1
  have hy := (hrun.mem_iff.1 hy).1
  rw [hkey, hy] at hx
  exact (Option.some.inj hx).symm

/-- A facet whose values stand in a tree, and one without. -/
private def gallery : Config where
  facets := [{ field := "subject", operator := .or }, { field := "size" }]
  hierarchies := [("subject", [.node "Arts" [.leaf "Painting", .node "Music" [.leaf "Opera", .leaf "undefined"]]])]

/-- A tree is selected, its key switched by a value that is there already, and a branch taken away again; another key
comes and goes. -/
private def galleryVisit : List Command :=
  [.selectNode 0 ["Arts"], .addSelection "subject" (.ofText "Opera") (some .and), .setRange 1 "1" "3",
    .deselectNode 0 ["Arts", "Music"], .addSelection "size" (.ofText "undefined") none, .setRange 1 "2" "5",
    .setSearchField (some ""), .removeSelection "size" (.ofText "undefined")]

theorem gallery_visit_refines_choices :
    (∀ cmd ∈ galleryVisit, cmd.FromText) ∧
      (gallery.run (.start {}) (galleryVisit.take 1)).selections =
        [⟨"subject", .term "Painting", .or⟩, ⟨"subject", .term "Opera", .or⟩, ⟨"subject", .undefined, .or⟩] ∧
      (gallery.run (.start {}) galleryVisit).selections = [⟨"subject", .term "Painting", .and⟩] ∧
      (galleryVisit.foldl gallery.choose .empty).values "subject" = {.term "Painting"} ∧
      (galleryVisit.foldl gallery.choose .empty).logic? "subject" = some .and ∧
      (galleryVisit.foldl gallery.choose .empty).keys "size" = none ∧
      (galleryVisit.foldl gallery.choose .empty).bounds 1 = some ("2", "5") := by
  have htext : ∀ cmd ∈ galleryVisit, cmd.FromText := by
    simp only [galleryVisit, List.forall_mem_cons, Command.FromText]
    exact ⟨trivial, ⟨_, rfl⟩, trivial, trivial, ⟨_, rfl⟩, trivial, trivial, ⟨_, rfl⟩, nofun⟩
  obtain ⟨-, -, -, -, -, hchoices⟩ := run_refines_choices gallery {} galleryVisit htext
  rw [← hchoices]
  exact ⟨htext, by decide, by decide, by decide, by decide, by decide, by decide⟩

end FacetedSearch
