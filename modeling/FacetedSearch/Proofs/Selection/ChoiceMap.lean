import Mathlib.Data.Finset.Dedup
import Mathlib.Data.Finset.SDiff
import Mathlib.Data.Finset.Lattice.Lemmas
import FacetedSearch.Selection.Command

/-!
# Choices as a map

What a user has chosen, apart from how it is kept: every key has a logic and a set of values, or nothing at all, and
every facet has bounds, or none.  A key without values has no entry, so it has no logic either.

* `ChoiceMap.insert`, `ChoiceMap.delete`, `ChoiceMap.flip`: the changes of a key.
* `ChoiceMap.ext_holds`: maps with the same values under the same logics, and the same bounds, are equal.
* `Config.choose`: what a command does to a map.
-/

namespace FacetedSearch

theorem Logic.flip_eq_iff {l l' : Logic} : l.flip = l' ↔ l = l'.flip := by
  cases l <;> cases l' <;> decide

/-- The values chosen on a key, and the logic between them. -/
structure KeyChoices where
  logic : Logic
  values : Finset Choice
  nonempty : values.Nonempty

/-- Choices with these values, if there are any. -/
def KeyChoices.of? (logic : Logic) (values : Finset Choice) : Option KeyChoices :=
  if h : values.Nonempty then some ⟨logic, values, h⟩ else none

theorem KeyChoices.of?_eq_some_iff {l : Logic} {vs : Finset Choice} {e : KeyChoices} :
    of? l vs = some e ↔ e.logic = l ∧ e.values = vs := by
  rw [of?]
  split
  · constructor
    · rintro ⟨⟩
      exact ⟨rfl, rfl⟩
    · rintro ⟨rfl, rfl⟩
      rfl
  · rename_i hempty
    refine iff_of_false nofun fun ⟨_, hvalues⟩ => hempty ?_
    rw [← hvalues]
    exact e.nonempty

/-- The choices on every key and the bounds of every facet. -/
@[ext]
structure ChoiceMap where
  keys : String → Option KeyChoices
  bounds : Nat → Option (String × String)

namespace ChoiceMap

/-- Nothing is chosen. -/
def empty : ChoiceMap := ⟨fun _ => none, fun _ => none⟩

/-- The logic of a key. -/
def logic? (m : ChoiceMap) (key : String) : Option Logic := (m.keys key).map (·.logic)

/-- The values of a key. -/
def values (m : ChoiceMap) (key : String) : Finset Choice := ((m.keys key).map (·.values)).getD ∅

/-- Adds values to a key, which takes the given logic. -/
def insert (m : ChoiceMap) (key : String) (l : Logic) (vs : Finset Choice) : ChoiceMap :=
  { m with keys := Function.update m.keys key (KeyChoices.of? l (m.values key ∪ vs)) }

/-- Takes values from a key, which is unset with its last one. -/
def delete (m : ChoiceMap) (key : String) (vs : Finset Choice) : ChoiceMap :=
  { m with keys := Function.update m.keys key ((m.keys key).bind fun e => KeyChoices.of? e.logic (e.values \ vs)) }

/-- Gives a key that is set the other logic. -/
def flip (m : ChoiceMap) (key : String) : ChoiceMap :=
  { m with keys := Function.update m.keys key ((m.keys key).map fun e => { e with logic := e.logic.flip }) }

/-- Bounds a facet. -/
def bound (m : ChoiceMap) (facet : Nat) (low high : String) : ChoiceMap :=
  { m with bounds := Function.update m.bounds facet (some (low, high)) }

/-- Lifts the bounds of a facet. -/
def unbound (m : ChoiceMap) (facet : Nat) : ChoiceMap :=
  { m with bounds := Function.update m.bounds facet none }

theorem bounds_bound (m : ChoiceMap) (facet f : Nat) (low high : String) :
    (m.bound facet low high).bounds f = if f = facet then some (low, high) else m.bounds f :=
  Function.update_apply ..

theorem bounds_unbound (m : ChoiceMap) (facet f : Nat) :
    (m.unbound facet).bounds f = if f = facet then none else m.bounds f :=
  Function.update_apply ..

/-! ### Values under a logic -/

/-- Whether a value is chosen on a key under a logic. -/
def Holds (m : ChoiceMap) (key : String) (v : Choice) (l : Logic) : Prop :=
  ∃ e, m.keys key = some e ∧ e.logic = l ∧ v ∈ e.values

variable {m : ChoiceMap} {key k : String} {v : Choice} {l l' : Logic} {vs : Finset Choice}

theorem mem_values_iff : v ∈ m.values key ↔ ∃ l, m.Holds key v l := by
  simp only [values, Holds]
  cases m.keys key <;> simp

-- a key that is set has a value, so its logic shows
theorem logic?_eq_some_iff : m.logic? key = some l ↔ ∃ v, m.Holds key v l := by
  rw [logic?, Option.map_eq_some_iff]
  constructor
  · rintro ⟨e, hkey, hlogic⟩
    obtain ⟨v, hv⟩ := e.nonempty
    exact ⟨v, e, hkey, hlogic, hv⟩
  · rintro ⟨_, e, hkey, hlogic, _⟩
    exact ⟨e, hkey, hlogic⟩

theorem holds_of_keys (h : m.keys key = KeyChoices.of? l vs) : m.Holds key v l' ↔ l' = l ∧ v ∈ vs := by
  rw [Holds, h]
  constructor
  · rintro ⟨e, he, rfl, hv⟩
    obtain ⟨hlogic, hvalues⟩ := KeyChoices.of?_eq_some_iff.1 he
    exact ⟨hlogic, hvalues ▸ hv⟩
  · rintro ⟨rfl, hv⟩
    exact ⟨⟨l', vs, v, hv⟩, KeyChoices.of?_eq_some_iff.2 ⟨rfl, rfl⟩, rfl, hv⟩

theorem holds_insert :
    (m.insert key l vs).Holds k v l' ↔
      if k = key then l' = l ∧ (v ∈ m.values key ∨ v ∈ vs) else m.Holds k v l' := by
  split
  · rename_i hkey
    subst hkey
    have hnew : (m.insert k l vs).keys k = KeyChoices.of? l (m.values k ∪ vs) := Function.update_self ..
    rw [holds_of_keys hnew, Finset.mem_union]
  · rename_i hne
    simp only [Holds, insert, Function.update_of_ne hne]

theorem holds_delete : (m.delete key vs).Holds k v l ↔ m.Holds k v l ∧ ¬(k = key ∧ v ∈ vs) := by
  by_cases hkey : k = key
  · subst hkey
    cases he : m.keys k with
    | none => simp [Holds, delete, he]
    | some e =>
      have hnew : (m.delete k vs).keys k = KeyChoices.of? e.logic (e.values \ vs) := by simp [delete, he]
      rw [holds_of_keys hnew, Finset.mem_sdiff]
      simp only [Holds, he, Option.some.injEq, exists_eq_left', true_and]
      rw [eq_comm, and_assoc]
  · simp only [Holds, delete, Function.update_of_ne hkey, hkey, false_and, not_false_eq_true, and_true]

theorem holds_flip : (m.flip key).Holds k v l ↔ m.Holds k v (if k = key then l.flip else l) := by
  by_cases hkey : k = key
  · subst hkey
    simp [Holds, flip, Logic.flip_eq_iff]
  · simp only [Holds, flip, Function.update_of_ne hkey, if_neg hkey]

/-- A map is given by the values that it holds under each logic, and its bounds. -/
theorem ext_holds {m m' : ChoiceMap} (hkeys : ∀ key v l, m.Holds key v l ↔ m'.Holds key v l)
    (hbounds : ∀ facet low high, m.bounds facet = some (low, high) ↔ m'.bounds facet = some (low, high)) :
    m = m' := by
  have hlogic : ∀ key, m.logic? key = m'.logic? key := fun key => by
    ext l
    simp only [logic?_eq_some_iff, hkeys]
  have hvalues : ∀ key, m.values key = m'.values key := fun key => by
    ext v
    simp only [mem_values_iff, hkeys]
  have hentry : ∀ (m : ChoiceMap) key, m.keys key = (m.logic? key).bind (KeyChoices.of? · (m.values key)) := by
    intro m key
    rw [logic?, values]
    cases m.keys key with
    | none => rfl
    | some e => exact (KeyChoices.of?_eq_some_iff.2 ⟨rfl, rfl⟩).symm
  ext1
  · funext key
    rw [hentry m, hentry m', hlogic, hvalues]
  · funext facet
    ext ⟨low, high⟩
    exact hbounds facet low high

/-! ### Several values at once -/

theorem insert_insert (ws : Finset Choice) : (m.insert key l vs).insert key l ws = m.insert key l (vs ∪ ws) := by
  refine ext_holds (fun k v l' => ?_) fun _ _ _ => Iff.rfl
  have hvalues : v ∈ (m.insert key l vs).values key ↔ v ∈ m.values key ∨ v ∈ vs := by
    simp [mem_values_iff, holds_insert]
  simp only [holds_insert, hvalues, Finset.mem_union, or_assoc]
  split <;> rfl

theorem insert_empty (h : ∀ l', m.logic? key = some l' → l' = l) : m.insert key l ∅ = m := by
  refine ext_holds (fun k v l' => ?_) fun _ _ _ => Iff.rfl
  rw [holds_insert]
  split
  · rename_i hkey
    subst hkey
    simp only [Finset.notMem_empty, or_false, mem_values_iff]
    constructor
    · rintro ⟨rfl, l'', hl⟩
      exact h l'' (logic?_eq_some_iff.2 ⟨v, hl⟩) ▸ hl
    · exact fun hl => ⟨h l' (logic?_eq_some_iff.2 ⟨v, hl⟩), l', hl⟩
  · rfl

theorem logic?_insert (hvs : vs.Nonempty) : (m.insert key l vs).logic? key = some l := by
  obtain ⟨v, hv⟩ := hvs
  exact logic?_eq_some_iff.2 ⟨v, holds_insert.2 (by simp [hv])⟩

theorem delete_delete (ws : Finset Choice) : (m.delete key vs).delete key ws = m.delete key (vs ∪ ws) := by
  refine ext_holds (fun k v l => ?_) fun _ _ _ => Iff.rfl
  simp only [holds_delete, Finset.mem_union]
  tauto

theorem delete_empty : m.delete key ∅ = m := by
  refine ext_holds (fun k v l => ?_) fun _ _ _ => Iff.rfl
  simp [holds_delete]

end ChoiceMap

/-! ### Nodes -/

/-- The choices of all leaves at or below a node. -/
def ValueTree.choices (t : ValueTree) : Finset Choice := (t.leaves.map Choice.ofText).toFinset

namespace Config

/-- The field of a facet and a node of its hierarchy. -/
def node? (c : Config) (facet : Nat) (path : List String) : Option (String × ValueTree) := do
  let f ← c.facets[facet]?
  let ts ← c.hierarchy? f.field
  let t ← ValueTree.find? ts path
  pure (f.field, t)

theorem nodeLeaves?_eq (c : Config) (facet : Nat) (path : List String) :
    c.nodeLeaves? facet path = (c.node? facet path).map fun node => (node.1, node.2.leaves) := by
  simp [nodeLeaves?, node?, Option.map_bind]

/-! ### Commands -/

/-- The logic of a key that takes a value: the requested one, else that of the key, else that of the facet. -/
def chosenLogic (c : Config) (m : ChoiceMap) (key : String) (requested : Option Logic) : Logic :=
  (requested <|> m.logic? key <|> (c.facet? key).map (·.operator)).getD .and

/-- What a command does to the choices.  Commands about texts, sort keys and pages leave them alone. -/
def choose (c : Config) (m : ChoiceMap) : Command → ChoiceMap
  | .addSelection key v requested => m.insert key (c.chosenLogic m key requested) {v}
  | .removeSelection key v => m.delete key {v}
  | .toggleKeyLogic key => m.flip key
  | .selectNode facet path =>
    match c.node? facet path with
    | some (key, t) => m.insert key (c.chosenLogic m key none) t.choices
    | none => m
  | .deselectNode facet path =>
    match c.node? facet path with
    | some (key, t) => m.delete key t.choices
    | none => m
  | .setRange facet low high => m.bound facet low high
  | .clearRange facet => m.unbound facet
  | .clear => .empty
  | .setFreeText _ | .setSearchField _ | .setSort _ | .setPage _ | .setPageSize _ | .nextPage | .previousPage
  | .cycleFacetOrder _ => m

end Config

end FacetedSearch
