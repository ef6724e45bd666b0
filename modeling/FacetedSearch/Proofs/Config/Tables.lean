import FacetedSearch.Config.Hierarchy
import FacetedSearch.Proofs.Text.Reading

/-!
# Faults of hierarchy tables

A hierarchy is read part by part, and the first part that does not fit ends the reading; only then are the leaves
compared.  Faults are listed here without any reading, straight from the parts of a value and from the labels of its
leaves, in the order in which they stand.

* `checkEach`: what a check finds along a list, each text being held against those before it.
* `Toml.parts`, `Toml.leafLabels`: the parts of a value at any depth, and the labels of its leaves.
* `firstFault_readHierarchy`: a hierarchy is read unless it has a fault.
* `leavesList_of_readHierarchy`, `nodup_leaves_of_readHierarchy`: the leaves of what is read.
-/

namespace FacetedSearch

section

variable {ε : Type} {check : List String → String → Option ε}

/-- What a check finds along a list: every text is held against the ones before it. -/
def checkEach (check : List String → String → Option ε) : List String → List String → List ε
  | _, [] => []
  | before, x :: xs => (check before x).toList ++ checkEach check (before ++ [x]) xs

theorem checkEach_eq_nil_iff {before xs : List String} :
    checkEach check before xs = [] ↔ ∀ pre x post, xs = pre ++ x :: post → check (before ++ pre) x = none := by
  induction xs generalizing before with
  | nil => simp [checkEach]
  | cons y xs ih =>
    rw [checkEach, List.append_eq_nil_iff, Option.toList_eq_nil_iff, ih]
    constructor
    · rintro ⟨hy, hxs⟩ pre x post hsplit
      rcases List.cons_eq_append_iff.1 hsplit with ⟨rfl, hcons⟩ | ⟨pre, rfl, hcons⟩
      · obtain ⟨rfl, -⟩ := List.cons.inj hcons
        rwa [List.append_nil]
      · have hx := hxs pre x post hcons
        rwa [List.append_assoc] at hx
    · intro h
      refine ⟨?_, fun pre x post hsplit => ?_⟩
      · have hy := h [] y xs rfl
        rwa [List.append_nil] at hy
      · have hx := h (y :: pre) x post (congrArg (y :: ·) hsplit)
        rwa [List.append_assoc]

end

/-- The texts seen so far are kept with the newest first, those before in their order. -/
theorem mem_seen_iff {seen before : List String} (hseen : ∀ x, x ∈ seen ↔ x ∈ before) (y x : String) :
    x ∈ y :: seen ↔ x ∈ before ++ [y] := by
  rw [List.mem_cons, List.mem_append, List.mem_singleton, hseen, or_comm]

/-- In a list without repetitions no text has come before. -/
theorem nodup_iff_not_mem_before {xs : List String} :
    xs.Nodup ↔ ∀ pre x post, xs = pre ++ x :: post → x ∉ pre := by
  constructor
  · rintro h pre x post rfl hmem
    exact (List.nodup_append.1 h).2.2 x hmem x (List.mem_cons_self ..) rfl
  · intro h
    induction xs with
    | nil => exact List.nodup_nil
    | cons x xs ih =>
      refine List.nodup_cons.2 ⟨fun hmem => ?_, ih fun pre y post hsplit hy => ?_⟩
      · obtain ⟨pre, post, rfl⟩ := List.append_of_mem hmem
        exact h (x :: pre) x post rfl (List.mem_cons_self ..)
      · exact h (x :: pre) y post (congrArg (x :: ·) hsplit) (List.mem_cons_of_mem _ hy)

/-- A text that has come before. -/
def again? (before : List String) (x : String) : Option String := if x ∈ before then some x else none

theorem firstRepeated_eq {seen before : List String} (hseen : ∀ x, x ∈ seen ↔ x ∈ before) (xs : List String) :
    firstRepeated seen xs = (checkEach again? before xs).head? := by
  induction xs generalizing seen before with
  | nil => rfl
  | cons x xs ih =>
    rw [firstRepeated, checkEach, again?, ih (mem_seen_iff hseen x)]
    by_cases hx : x ∈ before
    · rw [if_pos (List.contains_iff_mem.2 ((hseen x).2 hx)), if_pos hx]
      rfl
    · rw [if_neg fun h => hx ((hseen x).1 (List.contains_iff_mem.1 h)), if_neg hx]
      rfl

theorem checkEach_again_eq_nil_iff {xs : List String} : checkEach again? [] xs = [] ↔ xs.Nodup := by
  rw [checkEach_eq_nil_iff, nodup_iff_not_mem_before]
  simp only [List.nil_append, again?, ite_eq_right_iff, reduceCtorEq, imp_false]

/-! ### Parts and leaves of a value -/

namespace Toml

/-- What stands in a value: an entry of a table with its label, or an item of an array. -/
inductive Part
  | entry (label : String) (v : Toml)
  | item (v : Toml)

/-- What a hierarchy cannot hold: an entry is a table, an array or a string, and an item is a string or a table. -/
def Part.fault? : Part → Option HierarchyShape
  | .entry _ (.table _) => none
  | .entry _ (.arr _) => none
  | .entry _ (.str _) => none
  | .entry label v => some (.entry label v.kind)
  | .item (.str _) => none
  | .item (.table _) => none
  | .item v => some (.item v.kind)

mutual

/-- The parts of a value at any depth, each before what stands in it. -/
def parts : Toml → List Part
  | .table es => partsOfEntries es
  | .arr vs => partsOfItems vs
  | _ => []

def partsOfEntries : List (String × Toml) → List Part
  | [] => []
  | (label, v) :: es => .entry label v :: (parts v ++ partsOfEntries es)

def partsOfItems : List Toml → List Part
  | [] => []
  | v :: vs => .item v :: (parts v ++ partsOfItems vs)

end

/-- The leaves at a label: those below it, or the label itself if there are none. -/
def leavesAt (label : String) (below : List String) : List String := if below = [] then [label] else below

mutual

/-- The labels of the leaves in a value, in order: strings, and labels with nothing below them. -/
def leafLabels : Toml → List String
  | .str s => [s]
  | .arr vs => leafLabelsOfItems vs
  | .table es => leafLabelsOfEntries es
  | _ => []

def leafLabelsOfEntries : List (String × Toml) → List String
  | [] => []
  | (label, v) :: es => leavesAt label (leafLabels v) ++ leafLabelsOfEntries es

def leafLabelsOfItems : List Toml → List String
  | [] => []
  | v :: vs => leafLabels v ++ leafLabelsOfItems vs

end

/-- The faults of a hierarchy: it is no table, or else first the parts that it cannot hold and then the leaves that
have come before. -/
def treeFaults : Toml → List HierarchyFault
  | .table es =>
    ((table es).parts.filterMap Part.fault?).map .shape ++
      (checkEach again? [] (table es).leafLabels).map .repeatedLeaf
  | v => [.shape (.noTable v.kind)]

theorem treeFaults_eq_nil_iff {v : Toml} :
    v.treeFaults = [] ↔ (∃ es, v = .table es) ∧ (∀ p ∈ v.parts, p.fault? = none) ∧ v.leafLabels.Nodup := by
  cases v with
  | table es =>
    rw [treeFaults, List.append_eq_nil_iff, List.map_eq_nil_iff, List.map_eq_nil_iff, List.filterMap_eq_nil_iff,
      checkEach_again_eq_nil_iff]
    exact ⟨fun h => ⟨⟨es, rfl⟩, h⟩, And.right⟩
  | _ =>
    constructor
    · intro h
      cases h
    · rintro ⟨⟨es, hes⟩, -⟩
      cases hes

end Toml

/-! ### Reading a hierarchy -/

namespace ValueTree

theorem leaves_ne_nil (t : ValueTree) : t.leaves ≠ [] := by
  refine leaves.induct (fun t => t.leaves ≠ []) (fun ts => ts ≠ [] → leavesList ts ≠ []) ?_ ?_ ?_ ?_ t
  · intro l
    simp [leaves]
  · intro l t ts ih
    rw [leaves]
    exact ih (by simp)
  · exact absurd rfl
  · intro t ts ht _ _
    simp [leavesList, ht]

private theorem leavesList_append (ts us : List ValueTree) :
    leavesList (ts ++ us) = leavesList ts ++ leavesList us := by
  induction ts with
  | nil => rfl
  | cons t ts ih => rw [List.cons_append, leavesList, leavesList, ih, List.append_assoc]

end ValueTree

open ValueTree Toml

private theorem leaves_eq (label : String) (ts : List ValueTree) :
    (ValueTree.node label ts).leaves = leavesAt label (leavesList ts) := by
  cases ts with
  | nil => rfl
  | cons t ts =>
    have hne : leavesList (t :: ts) ≠ [] := by
      rw [leavesList]
      exact fun h => t.leaves_ne_nil (List.append_eq_nil_iff.1 h).1
    rw [leaves, leavesAt, if_neg hne]

/-- A reading fails at the first part that does not fit, and otherwise finds some leaves. -/
private structure ReadAs (ps : List Part) (ls : List String) (r : Except HierarchyShape (List ValueTree)) : Prop where
  fault : FirstFault (ps.filterMap Part.fault?) r
  leaves : ∀ ts, r = .ok ts → leavesList ts = ls

private theorem ReadAs.cons {p : Part} (hp : p.fault? = none) {ps : List Part} {ls : List String}
    {r : Except HierarchyShape (List ValueTree)} (h : ReadAs ps ls r) : ReadAs (p :: ps) ls r :=
  ⟨by rw [List.filterMap_cons_none hp]; exact h.fault, h.leaves⟩

private theorem ReadAs.unfit {p : Part} {s : HierarchyShape} (hp : p.fault? = some s) (ps : List Part)
    (ls : List String) : ReadAs (p :: ps) ls (.error s) :=
  ⟨by rw [List.filterMap_cons_some hp]; exact .error s _, nofun⟩

private theorem ReadAs.ok {ts : List ValueTree} {ls : List String} (h : leavesList ts = ls) : ReadAs [] ls (.ok ts) :=
  ⟨.ok ts, fun _ hts => Except.ok.inj hts ▸ h⟩

/-- Reading one thing after the other. -/
private theorem ReadAs.bind {ps ps' : List Part} {ls ls' ls'' : List String}
    {r r' : Except HierarchyShape (List ValueTree)} (h : ReadAs ps ls r) (h' : ReadAs ps' ls' r')
    {f : List ValueTree → List ValueTree → List ValueTree}
    (hf : ∀ ts us, leavesList ts = ls → leavesList us = ls' → leavesList (f ts us) = ls'') :
    ReadAs (ps ++ ps') ls'' (r >>= fun ts => r' >>= fun us => pure (f ts us)) := by
  constructor
  · rw [List.filterMap_append]
    exact h.fault.bind fun ts _ => h'.fault.map (f ts)
  · intro ts hts
    cases hr : r with
    | error s =>
      rw [hr] at hts
      cases hts
    | ok us =>
      cases hr' : r' with
      | error s =>
        rw [hr, hr'] at hts
        cases hts
      | ok us' =>
        rw [hr, hr'] at hts
        cases hts
        exact hf us us' (h.leaves us hr) (h'.leaves us' hr')

private theorem joined {ls ls' : List String} (ts us : List ValueTree) (hts : leavesList ts = ls)
    (hus : leavesList us = ls') : leavesList (ts ++ us) = ls ++ ls' := by
  rw [leavesList_append, hts, hus]

mutual

private theorem readAs_entries : ∀ es : List (String × Toml),
    ReadAs (partsOfEntries es) (leafLabelsOfEntries es) (readNodes es)
  | [] => .ok rfl
  | (label, v) :: es => by
    rw [partsOfEntries, leafLabelsOfEntries, readNodes, ← List.cons_append]
    refine (readAs_below label v).bind (readAs_entries es) fun ts us hts hus => ?_
    rw [leavesList, leaves_eq, hts, hus]

private theorem readAs_below (label : String) : ∀ v : Toml,
    ReadAs (.entry label v :: v.parts) v.leafLabels (readChildren label v)
  | .table es => (readAs_entries es).cons rfl
  | .arr vs => (readAs_items vs).cons rfl
  | .str s => .cons rfl (.ok (rfl : leavesList [.leaf s] = [s]))
  | .int _ => .unfit rfl ..
  | .float _ => .unfit rfl ..
  | .bool _ => .unfit rfl ..
  | .moment _ => .unfit rfl ..

private theorem readAs_items : ∀ vs : List Toml, ReadAs (partsOfItems vs) (leafLabelsOfItems vs) (readArray vs)
  | [] => .ok rfl
  | .str s :: vs => by
    rw [partsOfItems, leafLabelsOfItems, readArray]
    have hleaf : ReadAs (str s).parts (str s).leafLabels (.ok [.leaf s]) := .ok rfl
    exact .cons rfl (hleaf.bind (readAs_items vs) joined)
  | .table es :: vs => by
    rw [partsOfItems, leafLabelsOfItems, readArray]
    exact .cons rfl ((readAs_entries es).bind (readAs_items vs) joined)
  | .arr _ :: _ => .unfit rfl ..
  | .int _ :: _ => .unfit rfl ..
  | .float _ :: _ => .unfit rfl ..
  | .bool _ :: _ => .unfit rfl ..
  | .moment _ :: _ => .unfit rfl ..

end

/-- A hierarchy is read unless it has a fault, and then the first one is told. -/
theorem firstFault_readHierarchy (v : Toml) : FirstFault v.treeFaults (readHierarchy v) := by
  cases v with
  | table es =>
    have hread := readAs_entries es
    rw [treeFaults, readHierarchy, parts, leafLabels]
    cases hnodes : readNodes es with
    | error s =>
      obtain ⟨rest, hfaults⟩ := hread.fault.eq_cons hnodes
      rw [hfaults]
      exact .error _ _
    | ok ts =>
      rw [hread.fault.eq_nil hnodes, ← hread.leaves ts hnodes]
      simp only [List.map_nil, List.nil_append]
      rw [firstRepeated_eq (fun _ => Iff.rfl)]
      cases checkEach again? [] (leavesList ts) with
      | nil => exact .ok ts
      | cons l ls => exact .error _ _
  | _ => exact .error _ _

/-- The leaves of what is read are those that stand in the value. -/
theorem leavesList_of_readHierarchy {v : Toml} {ts : List ValueTree} (h : readHierarchy v = .ok ts) :
    leavesList ts = v.leafLabels := by
  rw [readHierarchy.eq_def] at h
  split at h
  · rename_i es
    split at h
    · cases h
    · rename_i hnodes
      split at h
      · cases h
      · cases h
        exact (readAs_entries es).leaves ts hnodes
  · cases h

/-- A hierarchy that was read has no leaf twice. -/
theorem nodup_leaves_of_readHierarchy {v : Toml} {ts : List ValueTree} (h : readHierarchy v = .ok ts) :
    (leavesList ts).Nodup := by
  rw [leavesList_of_readHierarchy h]
  exact (treeFaults_eq_nil_iff.1 ((firstFault_readHierarchy v).eq_nil h)).2.2

end FacetedSearch
