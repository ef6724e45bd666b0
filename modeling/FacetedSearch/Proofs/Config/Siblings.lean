import FacetedSearch.Proofs.Config.Merged
import FacetedSearch.Proofs.Config.Tables

/-!
# Paths in hierarchies

A path of labels leads to the first node that fits at each level.  Reading a hierarchy makes sure that no value is a
leaf twice, but an array adds the nodes of all its tables, so that siblings may have one label, and then a path cannot
tell them apart.

* `StandsBelow`: the nodes below a path, whichever of the siblings on the way are taken.
* `DistinctLabels`: no two siblings have one label, at any level.
* `find?_of_standsBelow`: with distinct labels, a path leads to the node that stands at it.
* `distinctLabels_of_found`: the labels are distinct when every path leads to a node with the leaves of the one that
  stands at it.
* `nodup_leaves_of_merge`: the leaves of a hierarchy of a merged configuration.
-/

namespace FacetedSearch

namespace ValueTree

/-- Whether a node stands right below the labels of a path. -/
def StandsBelow : List ValueTree → List String → ValueTree → Prop
  | ts, [], t => t ∈ ts
  | ts, l :: above, t => ∃ u ∈ ts, u.label = l ∧ StandsBelow u.children above t

theorem standsBelow_cons {t u : ValueTree} {ts : List ValueTree} {above : List String} :
    StandsBelow (t :: ts) above u ↔
      above = [] ∧ u = t ∨ (∃ p, above = t.label :: p ∧ StandsBelow t.children p u) ∨ StandsBelow ts above u := by
  cases above with
  | nil => simp [StandsBelow]
  | cons l above =>
    simp only [StandsBelow, List.mem_cons, exists_eq_or_imp, reduceCtorEq, false_and, false_or, List.cons.injEq,
      and_assoc, exists_and_left, exists_eq_left', eq_comm (a := l)]

mutual

/-- Whether all nodes below a node have labels that tell them from their siblings. -/
def DistinctBelow : ValueTree → Prop
  | .node _ cs => DistinctLabels cs

def DistinctLabels : List ValueTree → Prop
  | [] => True
  | t :: ts => (∀ u ∈ ts, u.label ≠ t.label) ∧ DistinctBelow t ∧ DistinctLabels ts

end

theorem distinctBelow_iff (t : ValueTree) : t.DistinctBelow ↔ DistinctLabels t.children := by
  obtain ⟨l, cs⟩ := t
  rw [DistinctBelow, children]

theorem DistinctLabels.below {ts : List ValueTree} (h : DistinctLabels ts) {t : ValueTree} (ht : t ∈ ts) :
    DistinctLabels t.children := by
  induction ts with
  | nil => cases ht
  | cons u ts ih =>
    obtain ⟨-, hu, hts⟩ := h
    rcases List.mem_cons.1 ht with rfl | ht
    · exact (distinctBelow_iff _).1 hu
    · exact ih hts ht

/-! ### Following a path -/

theorem find?_cons (ts : List ValueTree) (l : String) (path : List String) :
    find? ts (l :: path) =
      (ts.find? (·.label == l)).bind fun t => if path = [] then some t else find? t.children path := by
  cases path with
  | nil =>
    rw [find?]
    cases ts.find? (·.label == l) <;> rfl
  | cons m path =>
    rw [find?]
    cases ts.find? (·.label == l) <;> rfl

/-- A path with the label of the first of some siblings goes on below it. -/
theorem find?_head (t : ValueTree) (ts : List ValueTree) (path : List String) :
    find? (t :: ts) (t.label :: path) = if path = [] then some t else find? t.children path := by
  have hfirst : (t :: ts).find? (·.label == t.label) = some t := List.find?_cons_of_pos (beq_iff_eq.2 rfl)
  rw [find?_cons, hfirst, Option.bind_some]

/-- What a path leads to stands at it. -/
theorem standsBelow_of_find? {ts : List ValueTree} {above : List String} {l : String} {t : ValueTree}
    (h : find? ts (above ++ [l]) = some t) : StandsBelow ts above t ∧ t.label = l := by
  induction above generalizing ts with
  | nil =>
    rw [List.nil_append, find?] at h
    exact ⟨List.mem_of_find?_eq_some h, beq_iff_eq.1 (List.find?_some (p := fun u : ValueTree => u.label == l) h)⟩
  | cons m above ih =>
    rw [List.cons_append, find?_cons, Option.bind_eq_some_iff] at h
    obtain ⟨u, hu, hbelow⟩ := h
    rw [if_neg (by simp)] at hbelow
    obtain ⟨hstands, hlabel⟩ := ih hbelow
    have hm : u.label = m := beq_iff_eq.1 (List.find?_some (p := fun u : ValueTree => u.label == m) hu)
    exact ⟨⟨u, List.mem_of_find?_eq_some hu, hm, hstands⟩, hlabel⟩

private theorem find?_label {ts : List ValueTree} (hdistinct : DistinctLabels ts) {t : ValueTree} (ht : t ∈ ts) :
    ts.find? (·.label == t.label) = some t := by
  induction ts with
  | nil => cases ht
  | cons u ts ih =>
    obtain ⟨hne, -, hts⟩ := hdistinct
    rcases List.mem_cons.1 ht with rfl | ht
    · exact List.find?_cons_of_pos (beq_iff_eq.2 rfl)
    · rw [List.find?_cons_of_neg (by simpa using fun h => hne t ht h.symm)]
      exact ih hts ht

/-- With distinct labels, a path leads to the node that stands at it. -/
theorem find?_of_standsBelow {ts : List ValueTree} (hdistinct : DistinctLabels ts) {above : List String}
    {t : ValueTree} (h : StandsBelow ts above t) : find? ts (above ++ [t.label]) = some t := by
  induction above generalizing ts with
  | nil => rw [List.nil_append, find?_cons, find?_label hdistinct h, Option.bind_some, if_pos rfl]
  | cons l above ih =>
    obtain ⟨u, hu, rfl, hbelow⟩ := h
    rw [List.cons_append, find?_cons, find?_label hdistinct hu, Option.bind_some, if_neg (by simp)]
    exact ih (hdistinct.below hu) hbelow

theorem leavesList_children_sublist (t : ValueTree) : (leavesList t.children).Sublist t.leaves := by
  obtain ⟨l, cs⟩ := t
  cases cs with
  | nil => exact List.nil_sublist _
  | cons t ts => exact List.Sublist.refl _

private theorem leaves_sublist {ts : List ValueTree} {t : ValueTree} (ht : t ∈ ts) :
    t.leaves.Sublist (leavesList ts) := by
  induction ts with
  | nil => cases ht
  | cons u ts ih =>
    rw [leavesList]
    rcases List.mem_cons.1 ht with rfl | ht
    · exact List.sublist_append_left ..
    · exact (ih ht).trans (List.sublist_append_right ..)

/-- The leaves of what a path leads to stand among all leaves, in the same order. -/
theorem leaves_sublist_of_find? {ts : List ValueTree} {path : List String} {t : ValueTree}
    (h : find? ts path = some t) : t.leaves.Sublist (leavesList ts) := by
  induction path generalizing ts with
  | nil => cases h
  | cons l path ih =>
    rw [find?_cons, Option.bind_eq_some_iff] at h
    obtain ⟨u, hu, hbelow⟩ := h
    have hleaves := leaves_sublist (List.mem_of_find?_eq_some hu)
    split at hbelow
    · cases hbelow
      exact hleaves
    · exact (ih hbelow).trans ((leavesList_children_sublist u).trans hleaves)

/-! ### Labels that paths need -/

/-- Whether the path of each node leads to a node with all its leaves. -/
def Found (ts : List ValueTree) : Prop :=
  ∀ above t, StandsBelow ts above t → ∃ u, find? ts (above ++ [t.label]) = some u ∧ ∀ l ∈ t.leaves, l ∈ u.leaves

/-- Below the first of some siblings all is found where it stands. -/
private theorem Found.below {t : ValueTree} {ts : List ValueTree} (h : Found (t :: ts)) : Found t.children := by
  intro above u hu
  obtain ⟨v, hv, hleaves⟩ := h (t.label :: above) u ⟨t, List.mem_cons_self .., rfl, hu⟩
  rw [List.cons_append, find?_head, if_neg (by simp)] at hv
  exact ⟨v, hv, hleaves⟩

/-- A later sibling with the label of the first one has leaves that cannot be found. -/
private theorem Found.label_ne {t : ValueTree} {ts : List ValueTree} (hnodup : (leavesList (t :: ts)).Nodup)
    (h : Found (t :: ts)) {u : ValueTree} (hu : u ∈ ts) : u.label ≠ t.label := by
  intro heq
  obtain ⟨v, hv, hleaves⟩ := h [] u (List.mem_cons_of_mem _ hu)
  rw [List.nil_append, heq, find?_head, if_pos rfl] at hv
  cases hv
  obtain ⟨l, hl⟩ := List.exists_mem_of_ne_nil _ u.leaves_ne_nil
  rw [leavesList, List.nodup_append] at hnodup
  exact hnodup.2.2 l (hleaves l hl) l ((leaves_sublist hu).subset hl) rfl

private theorem Found.tail {t : ValueTree} {ts : List ValueTree} (h : Found (t :: ts))
    (hne : ∀ u ∈ ts, u.label ≠ t.label) : Found ts := by
  have hskip : ∀ u ∈ ts, ∀ path, find? (t :: ts) (u.label :: path) = find? ts (u.label :: path) := by
    intro u hu path
    rw [find?_cons, find?_cons, List.find?_cons_of_neg (by simpa using fun heq => hne u hu heq.symm)]
  intro above u hu
  cases above with
  | nil =>
    obtain ⟨v, hv⟩ := h [] u (List.mem_cons_of_mem _ hu)
    rw [List.nil_append, hskip u hu] at hv
    exact ⟨v, hv⟩
  | cons l above =>
    obtain ⟨w, hw, rfl, hbelow⟩ := hu
    obtain ⟨v, hv⟩ := h (w.label :: above) u ⟨w, List.mem_cons_of_mem _ hw, rfl, hbelow⟩
    rw [List.cons_append, hskip w hw] at hv
    exact ⟨v, hv⟩

mutual

private theorem distinctBelow_of_found : ∀ t : ValueTree, t.leaves.Nodup → Found t.children → t.DistinctBelow
  | .node _ [], _, _ => trivial
  | .node _ (t :: ts), hnodup, h => distinctLabels_of_found (t :: ts) hnodup h

/-- The labels are distinct when all leaves are and every path leads to what stands at it. -/
theorem distinctLabels_of_found : ∀ ts : List ValueTree, (leavesList ts).Nodup → Found ts → DistinctLabels ts
  | [], _, _ => trivial
  | t :: ts, hnodup, h => by
    have hne : ∀ u ∈ ts, u.label ≠ t.label := fun u hu => h.label_ne hnodup hu
    rw [leavesList, List.nodup_append] at hnodup
    exact ⟨hne, distinctBelow_of_found t hnodup.1 h.below, distinctLabels_of_found ts hnodup.2.1 (h.tail hne)⟩

end

end ValueTree

/-! ### Leaves of merged configurations -/

namespace Config

/-- No hierarchy of a merged configuration has a leaf twice. -/
theorem nodup_leaves_of_merge {sources : List Source} {c : Config} (hmerge : merge sources = .ok c) {field : String}
    {ts : List ValueTree} (hts : c.hierarchy? field = some ts) : (ValueTree.leavesList ts).Nodup := by
  obtain ⟨-, hhierarchies, -⟩ := parts_of_merge hmerge
  have hread := (get?_readHierarchies hhierarchies).2 field
  rw [show Entries.get? c.hierarchies field = some ts from hts, Option.map_some] at hread
  obtain ⟨v, -, hread⟩ := Option.map_eq_some_iff.1 hread.symm
  exact nodup_leaves_of_readHierarchy hread

end Config

end FacetedSearch
