import FacetedSearch.Selection.Command

/-!
# Coherent states

In every state that commands lead to, no value of a key is selected twice, all selections of a key have one logic, no
facet has two ranges, and the free text is not restricted to a field without a name.

* `Selection.Agree`: what two selections of one state have in common.
* `select_present`, `select_new`: selecting what is selected, and what agrees with all that is selected.
* `mem_putRange_iff`: the ranges after one of them was put in its place.
* `Coherent.apply`: commands keep states coherent.
* `run_coherent`: the state after any commands is coherent.
* `run_readable`: it holds the text for missing values only as the choice of missing values, if the commands do.
-/

namespace FacetedSearch

/-- Two selections can stand beside each other: on one key they have one logic and different values. -/
def Selection.Agree (x y : Selection) : Prop := x.key = y.key → x.logic = y.logic ∧ x.value ≠ y.value

theorem Selection.Agree.symm {x y : Selection} (h : x.Agree y) : y.Agree x := by
  intro hkey
  obtain ⟨hlogic, hvalue⟩ := h hkey.symm
  exact ⟨hlogic.symm, hvalue.symm⟩

/-- No selection of a list contradicts or repeats another one. -/
abbrev AllAgree (xs : List Selection) : Prop := xs.Pairwise Selection.Agree

/-- What holds of every state that commands lead to. -/
structure SearchState.Coherent (s : SearchState) : Prop where
  selections : AllAgree s.selections
  ranges : s.ranges.Pairwise fun a b => a.facet ≠ b.facet
  field : s.searchField ≠ some ""

namespace SearchState

/-! ### Selections -/

theorem not_mem_of_keyLogic_none {s : SearchState} {key : String} (h : s.keyLogic key = none) :
    ∀ x ∈ s.selections, x.key ≠ key := by
  intro x hx hkey
  rw [keyLogic, Option.map_eq_none_iff, List.find?_eq_none] at h
  exact h x hx (beq_iff_eq.2 hkey)

/-- The logic of a key is that of each of its selections. -/
theorem Coherent.logic_eq {s : SearchState} (h : s.Coherent) {key : String} {l : Logic}
    (hl : s.keyLogic key = some l) : ∀ x ∈ s.selections, x.key = key → x.logic = l := by
  obtain ⟨y, hfind, rfl⟩ := Option.map_eq_some_iff.1 hl
  have hykey : (y.key == key) = true := List.find?_some (p := fun x : Selection => x.key == key) hfind
  have hone : ∀ x ∈ s.selections, ∀ y ∈ s.selections, x.key = y.key → x.logic = y.logic := fun x hx y hy =>
    List.Pairwise.forall_of_forall_of_flip (fun _ _ _ => rfl) (h.selections.imp fun hagree hkey => (hagree hkey).1)
      (h.selections.imp fun hagree hkey => (hagree hkey.symm).1.symm) hx hy
  intro x hx hxkey
  exact hone x hx y (List.mem_of_find?_eq_some hfind) (hxkey.trans (beq_iff_eq.1 hykey).symm)

theorem isSelected_eq_false_iff {s : SearchState} {key : String} {v : Choice} :
    s.isSelected key v = false ↔ ∀ x ∈ s.selections, x.key = key → x.value ≠ v := by
  rw [isSelected, List.any_eq_false]
  constructor
  · intro h x hx hkey hvalue
    exact h x hx (by simp [hkey, hvalue])
  · intro h x hx hboth
    simp only [Bool.and_eq_true, beq_iff_eq] at hboth
    exact h x hx hboth.1 hboth.2

/-- One logic for a whole key changes neither keys nor values. -/
private theorem withLogic_spec (key : String) (l : Logic) (x : Selection) :
    ∃ y : Selection, (if x.key == key then { x with logic := l } else x) = y ∧ y.key = x.key ∧ y.value = x.value ∧
      y.logic = if x.key = key then l else x.logic := by
  by_cases hkey : x.key = key
  · exact ⟨{ x with logic := l }, by rw [if_pos (beq_iff_eq.2 hkey)], rfl, rfl, (if_pos hkey).symm⟩
  · exact ⟨x, by rw [if_neg (fun h => hkey (beq_iff_eq.1 h))], rfl, rfl, (if_neg hkey).symm⟩

theorem mem_withLogic {key : String} {l : Logic} {xs : List Selection} {y : Selection}
    (h : y ∈ withLogic key l xs) :
    ∃ x ∈ xs, y.key = x.key ∧ y.value = x.value ∧ y.logic = if x.key = key then l else x.logic := by
  obtain ⟨x, hx, hy⟩ := List.mem_map.1 h
  obtain ⟨z, hz, hspec⟩ := withLogic_spec key l x
  exact ⟨x, hx, by rw [← hy, hz]; exact hspec⟩

private theorem allAgree_withLogic {xs : List Selection} (h : AllAgree xs) (key : String) (l : Logic) :
    AllAgree (withLogic key l xs) := by
  rw [withLogic, AllAgree, List.pairwise_map]
  refine h.imp fun {x y} hagree => ?_
  obtain ⟨x', hx, hxkey, hxvalue, hxlogic⟩ := withLogic_spec key l x
  obtain ⟨y', hy, hykey, hyvalue, hylogic⟩ := withLogic_spec key l y
  rw [hx, hy]
  intro hkey
  have hsame : x.key = y.key := hxkey.symm.trans (hkey.trans hykey)
  rw [hxvalue, hyvalue, hxlogic, hylogic, hsame, (hagree hsame).1]
  exact ⟨rfl, (hagree hsame).2⟩

/-- The selections once a key that had the other logic has been switched to one. -/
def switched (s : SearchState) (key : String) (l : Logic) : List Selection :=
  if s.keyLogic key == some l.flip then withLogic key l s.selections else s.selections

theorem selections_select (s : SearchState) (key : String) (v : Choice) (l : Logic) :
    (s.select key v l).1.selections =
      if s.isSelected key v then s.switched key l else s.switched key l ++ [⟨key, v, l⟩] := by
  simp only [SearchState.select, switched]
  split
  · rfl
  · -- no change is reported: the key was not switched and the value is there
    rename_i hkept
    simp only [Bool.or_eq_true, Bool.not_eq_true', not_or, Bool.not_eq_false] at hkept
    rw [if_pos hkept.2, if_neg hkept.1]

/-- Selecting a value selects nothing else, whether the state is coherent or not. -/
theorem isSelected_select {s : SearchState} {key k : String} {v w : Choice} {l : Logic} :
    (s.select key v l).1.isSelected k w = true ↔ s.isSelected k w = true ∨ k = key ∧ w = v := by
  have hswitched : ((s.switched key l).any fun x => x.key == k && x.value == w) = s.isSelected k w := by
    rw [switched]
    split
    · rw [withLogic, List.any_map, isSelected]
      congr 1
      funext x
      rw [Function.comp_apply]
      split <;> rfl
    · rfl
  rw [isSelected, selections_select]
  cases hpresent : s.isSelected key v with
  | true =>
    rw [if_pos rfl, hswitched]
    refine (or_iff_left_of_imp ?_).symm
    rintro ⟨rfl, rfl⟩
    exact hpresent
  | false =>
    rw [if_neg Bool.false_ne_true, List.any_append, hswitched, Bool.or_eq_true]
    simp only [List.any_cons, List.any_nil, Bool.or_false, Bool.and_eq_true, beq_iff_eq, @eq_comm _ k, @eq_comm _ w]

/-- The selections after a value was selected: as many as before and perhaps the new one, which agrees with them. -/
private theorem allAgree_select {s : SearchState} (h : s.Coherent) (key : String) (v : Choice) (l : Logic) :
    AllAgree (s.select key v l).1.selections := by
  have hxs : AllAgree (s.switched key l) ∧ (∀ x ∈ s.switched key l, x.key = key → x.logic = l) ∧
      (s.isSelected key v = false → ∀ x ∈ s.switched key l, x.key = key → x.value ≠ v) := by
    rw [switched]
    by_cases hswitched : s.keyLogic key = some l.flip
    · rw [if_pos (beq_iff_eq.2 hswitched)]
      refine ⟨allAgree_withLogic h.selections key l, fun x hx hkey => ?_, fun habsent x hx hkey => ?_⟩
      · obtain ⟨y, -, hykey, -, hlogic⟩ := mem_withLogic hx
        rw [hlogic, if_pos (hykey.symm.trans hkey)]
      · obtain ⟨y, hy, hykey, hvalue, -⟩ := mem_withLogic hx
        rw [hvalue]
        exact isSelected_eq_false_iff.1 habsent y hy (hykey.symm.trans hkey)
    · rw [if_neg (fun heq => hswitched (beq_iff_eq.1 heq))]
      refine ⟨h.selections, ?_, isSelected_eq_false_iff.1⟩
      intro x hx hkey
      cases hl : s.keyLogic key with
      | none => exact absurd hkey (not_mem_of_keyLogic_none hl x hx)
      | some l' =>
        rw [h.logic_eq hl x hx hkey]
        cases l <;> cases l' <;> simp_all [Logic.flip]
  obtain ⟨hagree, hlogic, hvalue⟩ := hxs
  rw [selections_select]
  cases hpresent : s.isSelected key v with
  | true => exact hagree
  | false =>
    refine List.pairwise_append.2 ⟨hagree, List.pairwise_singleton .., fun x hx y hy => ?_⟩
    rw [List.mem_singleton.1 hy]
    exact fun hkey => ⟨hlogic x hx hkey, hvalue hpresent x hx hkey⟩

/-- A key is not switched to the logic that its selections have. -/
private theorem keyLogic_ne_flip {s : SearchState} {key : String} {l : Logic}
    (h : ∀ y ∈ s.selections, y.key = key → y.logic = l) : (s.keyLogic key == some l.flip) = false := by
  rw [beq_eq_false_iff_ne]
  intro hflip
  obtain ⟨y, hfind, hlogic⟩ := Option.map_eq_some_iff.1 hflip
  have hkey : (y.key == key) = true := List.find?_some (p := fun y : Selection => y.key == key) hfind
  rw [h y (List.mem_of_find?_eq_some hfind) (beq_iff_eq.1 hkey)] at hlogic
  cases l <;> cases hlogic

/-- Selecting what is selected changes nothing. -/
theorem select_present {s : SearchState} {x : Selection} (hx : x ∈ s.selections)
    (h : ∀ y ∈ s.selections, y.key = x.key → y.logic = x.logic) : (s.select x.key x.value x.logic).1 = s := by
  have hpresent : s.isSelected x.key x.value = true := by
    rw [isSelected, List.any_eq_true]
    exact ⟨x, hx, by simp⟩
  simp only [select, keyLogic_ne_flip h, hpresent, Bool.not_true, Bool.or_false, Bool.false_eq_true, if_false]

/-- Selecting what agrees with all that is selected adds it at the end. -/
theorem select_new {s : SearchState} {x : Selection} (h : ∀ y ∈ s.selections, y.Agree x) :
    (s.select x.key x.value x.logic).1 = { s with selections := s.selections ++ [x] }.rewind := by
  have hkept : (s.keyLogic x.key == some x.logic.flip) = false :=
    keyLogic_ne_flip fun y hy hkey => (h y hy hkey).1
  have habsent : s.isSelected x.key x.value = false :=
    isSelected_eq_false_iff.2 fun y hy hkey => (h y hy hkey).2
  simp only [select, hkept, habsent, Bool.false_eq_true, if_false, Bool.not_false, Bool.or_true, if_true]

theorem Coherent.select {s : SearchState} (h : s.Coherent) (key : String) (v : Choice) (l : Logic) :
    (s.select key v l).1.Coherent := by
  have hagree := allAgree_select h key v l
  simp only [SearchState.select] at hagree ⊢
  split
  · rename_i hchanged
    rw [if_pos hchanged] at hagree
    exact ⟨hagree, h.ranges, h.field⟩
  · exact h

theorem Coherent.deselect {s : SearchState} (h : s.Coherent) (key : String) (v : Choice) :
    (s.deselect key v).1.Coherent := by
  rw [SearchState.deselect]
  split
  · exact ⟨h.selections.sublist (List.eraseP_sublist ..), h.ranges, h.field⟩
  · exact h

theorem Coherent.toggleLogic {s : SearchState} (h : s.Coherent) (key : String) : (s.toggleLogic key).1.Coherent := by
  rw [SearchState.toggleLogic]
  split
  · exact ⟨allAgree_withLogic h.selections key _, h.ranges, h.field⟩
  · exact h

/-! ### Ranges -/

theorem mem_putRange {r x : FacetRange} {rs : List FacetRange} (h : x ∈ putRange r rs) : x = r ∨ x ∈ rs := by
  induction rs with
  | nil => exact Or.inl (List.mem_singleton.1 h)
  | cons y ys ih =>
    rw [putRange] at h
    split at h
    · rcases List.mem_cons.1 h with rfl | h
      · exact Or.inl rfl
      · exact Or.inr (List.mem_cons_of_mem _ h)
    · rcases List.mem_cons.1 h with rfl | h
      · exact Or.inr (List.mem_cons_self ..)
      · rcases ih h with rfl | h
        · exact Or.inl rfl
        · exact Or.inr (List.mem_cons_of_mem _ h)

theorem mem_putRange_iff {r q : FacetRange} {rs : List FacetRange} (h : rs.Pairwise fun a b => a.facet ≠ b.facet) :
    q ∈ putRange r rs ↔ q = r ∨ q ∈ rs ∧ q.facet ≠ r.facet := by
  induction rs with
  | nil => simp [putRange]
  | cons a rs ih =>
    obtain ⟨hhead, htail⟩ := List.pairwise_cons.1 h
    rw [putRange]
    split
    · rename_i hfacet
      rw [List.mem_cons, List.mem_cons]
      refine or_congr_right ⟨fun hq => ⟨Or.inr hq, fun heq => hhead q hq (hfacet.trans heq.symm)⟩, ?_⟩
      rintro ⟨rfl | hq, hne⟩
      · exact absurd hfacet hne
      · exact hq
    · rename_i hfacet
      rw [List.mem_cons, List.mem_cons, ih htail]
      constructor
      · rintro (rfl | rfl | ⟨hq, hne⟩)
        · exact Or.inr ⟨Or.inl rfl, hfacet⟩
        · exact Or.inl rfl
        · exact Or.inr ⟨Or.inr hq, hne⟩
      · rintro (rfl | ⟨rfl | hq, hne⟩)
        · exact Or.inr (Or.inl rfl)
        · exact Or.inl rfl
        · exact Or.inr (Or.inr ⟨hq, hne⟩)

theorem pairwise_putRange {rs : List FacetRange} (h : rs.Pairwise fun a b => a.facet ≠ b.facet)
    (r : FacetRange) : (putRange r rs).Pairwise fun a b => a.facet ≠ b.facet := by
  induction rs with
  | nil => exact List.pairwise_singleton ..
  | cons y ys ih =>
    obtain ⟨hhead, htail⟩ := List.pairwise_cons.1 h
    rw [putRange]
    split
    · rename_i heq
      exact List.pairwise_cons.2 ⟨fun x hx => heq ▸ hhead x hx, htail⟩
    · rename_i hne
      refine List.pairwise_cons.2 ⟨fun x hx => ?_, ih htail⟩
      rcases mem_putRange hx with rfl | hx
      · exact hne
      · exact hhead x hx

theorem Coherent.setRange {s : SearchState} (h : s.Coherent) (r : FacetRange) : (s.setRange r).Coherent :=
  ⟨h.selections, pairwise_putRange h.ranges r, h.field⟩

theorem Coherent.clearRange {s : SearchState} (h : s.Coherent) (facet : Nat) : (s.clearRange facet).1.Coherent := by
  simp only [SearchState.clearRange]
  split
  · exact h
  · exact ⟨h.selections, h.ranges.filter _, h.field⟩

/-! ### Texts -/

theorem Coherent.setFreeText {s : SearchState} (h : s.Coherent) (text : String) :
    (s.setFreeText text).1.Coherent := by
  rw [SearchState.setFreeText]
  split
  · exact h
  · exact ⟨h.selections, h.ranges, h.field⟩

theorem Coherent.setSearchField {s : SearchState} (h : s.Coherent) (field : Option String) :
    (s.setSearchField field).1.Coherent := by
  simp only [SearchState.setSearchField]
  split
  · exact h
  · refine ⟨h.selections, h.ranges, fun heq => ?_⟩
    have hempty := (Option.filter_eq_some_iff.1 heq).2
    exact absurd hempty (by decide)

theorem Coherent.setSort {s : SearchState} (h : s.Coherent) (sort : List SortKey) : (s.setSort sort).1.Coherent := by
  rw [SearchState.setSort]
  split
  · exact h
  · exact ⟨h.selections, h.ranges, h.field⟩

theorem Coherent.clear {s : SearchState} (h : s.Coherent) : s.clear.Coherent := ⟨.nil, .nil, h.field⟩

end SearchState

/-! ### Commands -/

namespace Config

/-- What one change for a leaf keeps, the changes for all leaves keep. -/
theorem forEachLeaf_preserves {P : SearchState → Prop} {change : SearchState → String → SearchState × Bool}
    (hchange : ∀ s leaf, P s → P (change s leaf).1) (leaves : List String) {s : SearchState} (hs : P s) :
    P (forEachLeaf change s leaves).1 := by
  have hfold : ∀ {step : SearchState × Bool → String → SearchState × Bool},
      (∀ acc leaf, P acc.1 → P (step acc leaf).1) → ∀ acc, P acc.1 → P (leaves.foldl step acc).1 := by
    intro step hstep
    induction leaves with
    | nil => exact fun _ hacc => hacc
    | cons leaf leaves ih => exact fun acc hacc => ih _ (hstep acc leaf hacc)
  refine hfold (fun acc leaf hacc => ?_) (s, false) hs
  obtain ⟨s, changed⟩ := acc
  exact hchange s leaf hacc

end Config

namespace SearchState

theorem Coherent.apply {s : SearchState} (h : s.Coherent) (c : Config) (cmd : Command) :
    (c.apply s cmd).1.Coherent := by
  cases cmd with
  | addSelection key v l => exact h.select key v _
  | removeSelection key v => exact h.deselect key v
  | toggleKeyLogic key => exact h.toggleLogic key
  | setRange facet low high => exact h.setRange _
  | clearRange facet => exact h.clearRange facet
  | setFreeText text => exact h.setFreeText text
  | setSearchField field => exact h.setSearchField field
  | setSort sort => exact h.setSort sort
  | setPage _ | setPageSize _ | nextPage | previousPage => exact ⟨h.selections, h.ranges, h.field⟩
  | cycleFacetOrder _ => exact h
  | selectNode facet path =>
    rw [Config.apply]
    split
    · exact Config.forEachLeaf_preserves (P := Coherent) (fun s leaf hs => hs.select _ _ _) _ h
    · exact h
  | deselectNode facet path =>
    rw [Config.apply]
    split
    · exact Config.forEachLeaf_preserves (P := Coherent) (fun s leaf hs => hs.deselect _ _) _ h
    · exact h
  | clear => exact h.clear

end SearchState

namespace Config

theorem run_append (c : Config) (s : SearchState) (xs ys : List Command) :
    c.run s (xs ++ ys) = c.run (c.run s xs) ys := List.foldl_append

/-- What every command keeps, commands in a row keep. -/
theorem run_preserves {P : SearchState → Prop} {c : Config} {cmds : List Command}
    (happly : ∀ s, ∀ cmd ∈ cmds, P s → P (c.apply s cmd).1) {s : SearchState} (hs : P s) : P (c.run s cmds) := by
  induction cmds generalizing s with
  | nil => exact hs
  | cons cmd cmds ih =>
    exact ih (fun s d hd => happly s d (List.mem_cons_of_mem _ hd)) (happly s cmd (List.mem_cons_self ..) hs)

theorem run_coherent (c : Config) (cmds : List Command) : (c.run c.startState cmds).Coherent :=
  run_preserves (P := SearchState.Coherent) (fun _ cmd _ hs => hs.apply c cmd) ⟨.nil, .nil, nofun⟩

end Config

/-! ### Values from texts -/

/-- The text for missing values never stands for a term. -/
def Choice.Readable (v : Choice) : Prop := v ≠ .term undefinedText

theorem Choice.readable_ofText (text : String) : (Choice.ofText text).Readable := by
  rw [Readable, ofText]
  split
  · exact Choice.noConfusion
  · rename_i hne
    exact fun heq => hne (Choice.term.inj heq)

theorem Choice.text_ofText (text : String) : (Choice.ofText text).text = text := by
  rw [ofText]
  split
  · rename_i hundefined
    exact hundefined.symm
  · rfl

theorem Choice.ofText_injective : Function.Injective Choice.ofText := fun a b h => by
  rw [← text_ofText a, h, text_ofText]

/-- A readable choice is the choice with its text. -/
theorem Choice.Readable.ofText_eq {value : String} (h : (Choice.term value).Readable) :
    Choice.ofText value = .term value := by
  rw [ofText, if_neg fun heq => h (congrArg Choice.term heq)]

/-- Whether the values that a command names were made from texts. -/
def Command.FromText : Command → Prop
  | .addSelection _ v _ | .removeSelection _ v => ∃ text, v = .ofText text
  | _ => True

namespace SearchState

/-- All selected values are readable. -/
def Readable (s : SearchState) : Prop := ∀ x ∈ s.selections, x.value.Readable

private theorem readable_withLogic {xs : List Selection} (h : ∀ x ∈ xs, x.value.Readable) (key : String) (l : Logic) :
    ∀ x ∈ withLogic key l xs, x.value.Readable := by
  intro y hy
  obtain ⟨x, hx, -, hvalue, -⟩ := mem_withLogic hy
  rw [hvalue]
  exact h x hx

theorem Readable.select {s : SearchState} (h : s.Readable) (key : String) {v : Choice} (hv : v.Readable) (l : Logic) :
    (s.select key v l).1.Readable := by
  have hxs : ∀ x ∈ s.switched key l, x.value.Readable := by
    rw [switched]
    split
    · exact readable_withLogic h key l
    · exact h
  intro x hx
  rw [selections_select] at hx
  split at hx
  · exact hxs x hx
  · rcases List.mem_append.1 hx with hx | hx
    · exact hxs x hx
    · rw [List.mem_singleton.1 hx]
      exact hv

theorem Readable.deselect {s : SearchState} (h : s.Readable) (key : String) (v : Choice) :
    (s.deselect key v).1.Readable := by
  rw [SearchState.deselect]
  split
  · exact fun x hx => h x (List.mem_of_mem_eraseP hx)
  · exact h

theorem Readable.toggleLogic {s : SearchState} (h : s.Readable) (key : String) : (s.toggleLogic key).1.Readable := by
  rw [SearchState.toggleLogic]
  split
  · exact readable_withLogic h key _
  · exact h

theorem Readable.apply {s : SearchState} (h : s.Readable) (c : Config) {cmd : Command} (htext : cmd.FromText) :
    (c.apply s cmd).1.Readable := by
  cases cmd with
  | addSelection key v l =>
    obtain ⟨text, rfl⟩ := htext
    exact h.select key (Choice.readable_ofText text) _
  | removeSelection key v => exact h.deselect key v
  | toggleKeyLogic key => exact h.toggleLogic key
  | clearRange facet =>
    simp only [Config.apply, SearchState.clearRange]
    split <;> exact h
  | setFreeText text =>
    simp only [Config.apply, SearchState.setFreeText]
    split <;> exact h
  | setSearchField field =>
    simp only [Config.apply, SearchState.setSearchField]
    split <;> exact h
  | setSort sort =>
    simp only [Config.apply, SearchState.setSort]
    split <;> exact h
  | setRange _ _ _ | setPage _ | setPageSize _ | nextPage | previousPage | cycleFacetOrder _ => exact h
  | selectNode facet path =>
    rw [Config.apply]
    split
    · exact Config.forEachLeaf_preserves (P := Readable)
        (fun s leaf hs => hs.select _ (Choice.readable_ofText leaf) _) _ h
    · exact h
  | deselectNode facet path =>
    rw [Config.apply]
    split
    · exact Config.forEachLeaf_preserves (P := Readable) (fun s leaf hs => hs.deselect _ _) _ h
    · exact h
  | clear => exact fun x hx => absurd hx List.not_mem_nil

end SearchState

theorem Config.run_readable {c : Config} {cmds : List Command} (htext : ∀ cmd ∈ cmds, cmd.FromText) :
    (c.run c.startState cmds).Readable :=
  run_preserves (P := SearchState.Readable) (fun _ cmd hcmd hs => hs.apply c (htext cmd hcmd)) nofun

end FacetedSearch
