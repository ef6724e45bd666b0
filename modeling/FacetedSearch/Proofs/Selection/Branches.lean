import FacetedSearch.Proofs.Config.Malformed
import FacetedSearch.Proofs.Config.Siblings
import FacetedSearch.Proofs.Selection.Choices
import FacetedSearch.Proofs.Selection.Reports

/-!
# Selecting whole branches

Selecting a node of a hierarchy goes through its leaves one by one, and so does dropping it.  In the list of selections
this is a single step: the leaves that are not there yet come behind the rest in their order, or those that are there
go and the rest closes up.  So a node none of whose leaves was selected can be selected and dropped without a trace.

* `selections_selectLeaves`, `selections_deselectLeaves`: the list of selections after a change for every leaf.
* `WellFormed.nodup_leaves`: the leaves of a node are distinct in a merged configuration.
* `select_deselect_node`: what selecting and dropping a node do to the list of selections.
-/

namespace FacetedSearch

namespace SearchState

variable {s : SearchState} {key : String}

/-! ### Leaf by leaf -/

/-- The values that are not selected yet come behind the selections, one after the other. -/
theorem selections_selectLeaves {l : Logic} (h : s.keyLogic key ≠ some l.flip) {leaves : List String}
    (hnodup : leaves.Nodup) :
    (Config.forEachLeaf (fun s leaf => s.select key (.ofText leaf) l) s leaves).1.selections =
      s.selections ++ ((leaves.map Choice.ofText).filter (!s.isSelected key ·)).map (⟨key, ·, l⟩) := by
  induction leaves generalizing s with
  | nil => exact (List.append_nil _).symm
  | cons leaf leaves ih =>
    obtain ⟨hnew, hrest⟩ := List.nodup_cons.1 hnodup
    -- of the other leaves, the first step selects none
    have hsame : ∀ v ∈ leaves.map Choice.ofText,
        (s.select key (.ofText leaf) l).1.isSelected key v = s.isSelected key v := by
      intro v hv
      have hne : v ≠ .ofText leaf := by
        rintro rfl
        obtain ⟨other, hother, htext⟩ := List.mem_map.1 hv
        exact hnew (Choice.ofText_injective htext ▸ hother)
      rw [Bool.eq_iff_iff, isSelected_select]
      simp [hne]
    have hfilter := List.filter_congr (q := (!s.isSelected key ·)) fun v hv => congrArg not (hsame v hv)
    rw [Config.forEachLeaf_cons, ih (keyLogic_select_ne h) hrest, hfilter, List.map_cons,
      select_of_not_switched h]
    by_cases hpresent : s.isSelected key (.ofText leaf)
    · rw [if_pos hpresent, List.filter_cons_of_neg (by simp [hpresent])]
    · rw [if_neg hpresent, List.filter_cons_of_pos (by simp [hpresent]), List.map_cons]
      simp [rewind]

/-- The selections with one of the values go, and the others close up. -/
theorem Coherent.selections_deselectLeaves (h : s.Coherent) (leaves : List String) :
    (Config.forEachLeaf (fun s leaf => s.deselect key (.ofText leaf)) s leaves).1.selections =
      s.selections.filter fun x => ¬(x.key = key ∧ x.value ∈ leaves.map Choice.ofText) := by
  induction leaves generalizing s with
  | nil => simp [Config.forEachLeaf]
  | cons leaf leaves ih =>
    rw [Config.forEachLeaf_cons, ih (h.deselect key (.ofText leaf)), h.selections_deselect, List.filter_filter]
    refine List.filter_congr fun x _ => ?_
    simp only [List.map_cons, List.mem_cons, ← Bool.decide_and, decide_eq_decide]
    tauto

end SearchState

/-! ### Nodes of merged configurations -/

namespace Config

variable {c : Config}

theorem resolveLogic_none {f : Facet} (hf : c.facet? f.field = some f) (s : SearchState) :
    c.resolveLogic s f.field none = (s.keyLogic f.field).getD f.operator := by
  rw [resolveLogic, hf]
  cases s.keyLogic f.field <;> rfl

theorem WellFormed.nodup_leaves (h : c.WellFormed) {i : Nat} {path : List String} {field : String} {t : ValueTree}
    (ht : c.node? i path = some (field, t)) : t.leaves.Nodup := by
  simp only [node?, Option.bind_eq_bind, Option.bind_eq_some_iff, Option.pure_def, Option.some.injEq] at ht
  obtain ⟨f, -, ts, hts, u, hu, hpair⟩ := ht
  obtain ⟨-, rfl⟩ := Prod.mk.inj hpair
  exact (h.leaves _ (Entries.mem_of_get? hts)).sublist (ValueTree.leaves_sublist_of_find? hu)

end Config

/-- In a state that commands lead to, selecting a node puts the leaves that are not selected yet behind all selections,
in the logic that the key has, or else its facet, and so the key has one logic as before.  Dropping the node takes its
leaves out of the list and leaves the rest as it is.  When no leaf was selected, dropping the node after selecting it
gives the old list.  A path that leads to no node changes nothing. -/
theorem select_deselect_node {files : List Source} {c : Config} (hmerge : Config.merge files = .ok c) (page : Page)
    (cmds : List Command) (i : Nat) (path : List String) :
    let s := c.run (.start page) cmds
    let on := (c.apply s (.selectNode i path)).1
    let off := (c.apply s (.deselectNode i path)).1
    (c.node? i path = none → on = s ∧ off = s) ∧
      ∀ f t, c.facets[i]? = some f → c.node? i path = some (f.field, t) →
        let values := t.leaves.map Choice.ofText
        let l := (s.keyLogic f.field).getD f.operator
        on.selections = s.selections ++ (values.filter (!s.isSelected f.field ·)).map (⟨f.field, ·, l⟩) ∧
          (∀ x ∈ on.selections, x.key = f.field → x.logic = l) ∧
          off.selections = s.selections.filter (fun x => ¬(x.key = f.field ∧ x.value ∈ values)) ∧
          ((∀ v ∈ values, s.isSelected f.field v = false) →
            (c.apply on (.deselectNode i path)).1.selections = s.selections) := by
  intro s on off
  have hs : s.Coherent :=
    Config.run_preserves (P := SearchState.Coherent) (fun _ cmd _ hs => hs.apply c cmd) ⟨.nil, .nil, nofun⟩
  constructor
  · intro hnone
    simp [on, off, Config.apply, Config.nodeLeaves?_eq, hnone]
  intro f t hf ht values l
  have hsound := Config.wellFormed_of_merge hmerge
  have hleaves : c.nodeLeaves? i path = some (f.field, t.leaves) := by
    rw [Config.nodeLeaves?_eq, ht]
    rfl
  have hlogic : c.resolveLogic s f.field none = l := Config.resolveLogic_none (Config.facet?_eq hsound.distinct hf) s
  have hon : on.selections = s.selections ++ (values.filter (!s.isSelected f.field ·)).map (⟨f.field, ·, l⟩) := by
    simp only [on, Config.apply, hleaves, hlogic]
    refine SearchState.selections_selectLeaves ?_ (hsound.nodup_leaves ht)
    rw [← hlogic]
    exact Config.keyLogic_ne_flip_resolveLogic c s f.field
  have hdrop : ∀ u : SearchState, u.Coherent → (c.apply u (.deselectNode i path)).1.selections =
      u.selections.filter fun x => ¬(x.key = f.field ∧ x.value ∈ values) := by
    intro u hu
    simp only [Config.apply, hleaves]
    exact hu.selections_deselectLeaves t.leaves
  refine ⟨hon, fun x hx hkey => ?_, hdrop s hs, fun hnew => ?_⟩
  · rw [hon, List.mem_append] at hx
    rcases hx with hx | hx
    · have hlogic := (hs.mem_iff.1 hx).1
      rw [hkey] at hlogic
      simp [l, hlogic]
    · obtain ⟨v, -, rfl⟩ := List.mem_map.1 hx
      rfl
  · have hkept : ∀ x ∈ s.selections, ¬(x.key = f.field ∧ x.value ∈ values) := by
      rintro x hx ⟨hkey, hvalue⟩
      exact SearchState.isSelected_eq_false_iff.1 (hnew x.value hvalue) x hx hkey rfl
    have hgone : ∀ x ∈ (values.filter (!s.isSelected f.field ·)).map (Selection.mk f.field · l),
        x.key = f.field ∧ x.value ∈ values := by
      intro x hx
      obtain ⟨v, hv, rfl⟩ := List.mem_map.1 hx
      exact ⟨rfl, (List.mem_filter.1 hv).1⟩
    rw [hdrop on (hs.apply c _), hon, List.filter_append, List.filter_eq_self.2 fun x hx => decide_eq_true (hkept x hx),
      List.filter_eq_nil_iff.2 fun x hx => by simp [hgone x hx], List.append_nil]

/-- One leaf of the first branch is selected before the branch is, and in another logic than that of the facet.  Of the
second branch, which records without a period belong to, none is. -/
theorem select_deselect_branches :
    let ts : List ValueTree :=
      [.node "Recent" [.leaf "1998", .leaf "1999"], .node "Other" [.leaf "1850", .leaf undefinedText]]
    let c : Config := { facets := [{ field := "period" }], hierarchies := [("period", ts)], root := some "" }
    let s := c.run (.start {}) [.addSelection "period" (.term "1999") (some .or)]
    Config.merge [⟨"search.toml", {
        facets := some [{ field := some "period" }]
        hierarchies := [("period", .table [
          ("Recent", .arr [.str "1998", .str "1999"]),
          ("Other", .arr [.str "1850", .str undefinedText])])] }⟩] = .ok c ∧
      (c.apply s (.selectNode 0 ["Recent"])).1.selections =
        [⟨"period", .term "1999", .or⟩, ⟨"period", .term "1998", .or⟩] ∧
      (c.apply s (.deselectNode 0 ["Recent"])).1.selections = [] ∧
      (c.apply s (.selectNode 0 ["Other"])).1.selections =
        [⟨"period", .term "1999", .or⟩, ⟨"period", .term "1850", .or⟩, ⟨"period", .undefined, .or⟩] ∧
      (c.apply (c.apply s (.selectNode 0 ["Other"])).1 (.deselectNode 0 ["Other"])).1.selections = s.selections := by
  intro ts c s
  have hmerge : Config.merge [⟨"search.toml", {
      facets := some [{ field := some "period" }]
      hierarchies := [("period", .table [
        ("Recent", .arr [.str "1998", .str "1999"]),
        ("Other", .arr [.str "1850", .str undefinedText])])] }⟩] = .ok c := by rfl
  have hnode := fun path => select_deselect_node hmerge {} [.addSelection "period" (.term "1999") (some .or)] 0 path
  obtain ⟨honRecent, -, hoffRecent, -⟩ := (hnode ["Recent"]).2 _ _ rfl rfl
  obtain ⟨honOther, -, -, hrestored⟩ := (hnode ["Other"]).2 _ _ rfl rfl
  exact ⟨hmerge, honRecent.trans (by decide), hoffRecent.trans (by decide), honOther.trans (by decide),
    hrestored (by decide)⟩

end FacetedSearch
