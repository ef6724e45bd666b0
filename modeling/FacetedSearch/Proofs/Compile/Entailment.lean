import FacetedSearch.Proofs.Clause.Graft
import FacetedSearch.Proofs.Compile.Meaning

/-!
# Entailment between compiled queries

A query is built from clauses at places.  Whether it entails another one is decided scope by scope: a clause about the
record itself has to follow from the clauses about the record, and the clauses of a path either follow one by one from
those of the same path, or all together from the clauses about the record.  Nothing else helps, since a record may be
given a nested object that satisfies just the clauses of one path.

* `Placed.standing`: the clauses of one scope.
* `Covers`: how placed clauses account for a clause of the other query.
* `entails_queryOf_iff`: one query entails the other if its clauses account for each of the other's.
-/

namespace FacetedSearch

universe u

namespace Placed

/-- The clauses that stand in a scope. -/
def standing (scope : Option String) (ps : List Placed) : List Clause :=
  (ps.filter fun x => x.1.scope = scope).map (·.2)

theorem mem_standing_iff {scope : Option String} {ps : List Placed} {q : Clause} :
    q ∈ standing scope ps ↔ ∃ x ∈ ps, x.1.scope = scope ∧ x.2 = q := by
  simp only [standing, List.mem_map, List.mem_filter, decide_eq_true_eq, and_assoc]

theorem standing_of_mem {ps : List Placed} {x : Placed} (h : x ∈ ps) : x.2 ∈ standing x.1.scope ps :=
  mem_standing_iff.2 ⟨x, h, rfl, rfl⟩

end Placed

/-- Placed clauses account for a clause of another query: it follows from the clauses that stand in its scope, or it
is about nested objects and the clauses about the record already give one that satisfies its whole scope. -/
def Covers (ps qs : List Placed) (x : Placed) : Prop :=
  (x.1.scope ≠ none → Placed.standing x.1.scope ps ≠ []) ∧ Entails.{u} (Placed.standing x.1.scope ps) x.2 ∨
    ∃ path, x.1.scope = some path ∧
      Entails.{u} (Placed.standing none ps) (.nested path (.must (Placed.standing (some path) qs)))

namespace Reading

variable {R S : Type u} {I : Reading R} {r : R} {J : Reading S} {more : String → S → Prop}

/-- The meaning of placed clauses in terms of what stands in each scope. -/
theorem holds_queryOf_iff {ps : List Placed} :
    I.Holds (Config.queryOf ps) r ↔
      (∀ q ∈ Placed.standing none ps, I.Holds q r) ∧
        ∀ path, Placed.standing (some path) ps ≠ [] →
          ∃ o, I.nested r path o ∧ ∀ q ∈ Placed.standing (some path) ps, I.Holds q o := by
  have hall : ∀ (scope : Option String) (o : R), (∀ q ∈ Placed.standing scope ps, I.Holds q o) ↔
      ∀ x ∈ ps, x.1.scope = scope → I.Holds x.2 o := by
    intro scope o
    constructor
    · intro h x hx hscope
      exact h _ (Placed.mem_standing_iff.2 ⟨x, hx, hscope, rfl⟩)
    · intro h q hq
      obtain ⟨x, hx, hscope, rfl⟩ := Placed.mem_standing_iff.1 hq
      exact h x hx hscope
  have hused : ∀ scope, Placed.standing scope ps ≠ [] ↔ ∃ x ∈ ps, x.1.scope = scope := by
    intro scope
    constructor
    · intro hne
      obtain ⟨q, hq⟩ := List.exists_mem_of_ne_nil _ hne
      obtain ⟨x, hx, hscope, -⟩ := Placed.mem_standing_iff.1 hq
      exact ⟨x, hx, hscope⟩
    · rintro ⟨x, hx, rfl⟩
      exact List.ne_nil_of_mem (Placed.standing_of_mem hx)
  simp only [hall, hused]
  exact Config.holds_queryOf

/-- A criterion is about the atoms of a record, which further nested objects do not change. -/
theorem holds_graft_criterion {k : Criterion} :
    (I.graft r J more).Holds k.clause none ↔ I.Holds k.clause r := by
  have hone : ∀ x : Selection, (I.graft r J more).Holds x.clause none ↔ I.Holds x.clause r := by
    rintro ⟨key, value, l⟩
    cases value <;> exact Iff.rfl
  cases k with
  | one x => exact hone x
  | oneOf key vs =>
    have hmember : ∀ q ∈ vs.map fun v => Selection.clause ⟨key, v, .or⟩,
        ((I.graft r J more).Holds q none ↔ I.Holds q r) := by
      intro q hq
      obtain ⟨v, -, rfl⟩ := List.mem_map.1 hq
      exact hone _
    rw [Criterion.clause, Clause.should, holds_bool, holds_bool]
    exact and_congr (by simp) (or_congr_right (exists_congr fun q => and_congr_right (hmember q)))
  | within g field => exact Iff.rfl
  | text q => exact Iff.rfl

end Reading

namespace Config

variable {ps qs : List Placed}

/-- Clauses that account for all of another query entail it. -/
private theorem entails_of_covers (h : ∀ x ∈ qs, Covers.{u} ps qs x) : Entails.{u} [queryOf ps] (queryOf qs) := by
  intro R I r hps
  obtain ⟨hself, hpaths⟩ := Reading.holds_queryOf_iff.1 (hps _ (List.mem_singleton.2 rfl))
  refine Reading.holds_queryOf_iff.2 ⟨fun q hq => ?_, fun path hused => ?_⟩
  · obtain ⟨x, hx, hscope, rfl⟩ := Placed.mem_standing_iff.1 hq
    rcases h x hx with ⟨-, hent⟩ | ⟨path, hpath, -⟩
    · rw [hscope] at hent
      exact hent R I r hself
    · rw [hscope] at hpath
      cases hpath
  · by_cases hwhole : Entails.{u} (Placed.standing none ps) (.nested path (.must (Placed.standing (some path) qs)))
    · obtain ⟨o, ho, hmust⟩ := Reading.holds_nested.1 (hwhole R I r hself)
      exact ⟨o, ho, Reading.holds_must.1 hmust⟩
    · -- each clause of the path follows from those of the same path, so one object serves them all
      have heach : ∀ q ∈ Placed.standing (some path) qs,
          Placed.standing (some path) ps ≠ [] ∧ Entails.{u} (Placed.standing (some path) ps) q := by
        intro q hq
        obtain ⟨x, hx, hscope, rfl⟩ := Placed.mem_standing_iff.1 hq
        rcases h x hx with ⟨hne, hent⟩ | ⟨path', hpath, hent⟩
        · rw [hscope] at hne hent
          exact ⟨hne nofun, hent⟩
        · rw [hscope] at hpath
          cases hpath
          exact absurd hent hwhole
      obtain ⟨q, hq⟩ := List.exists_mem_of_ne_nil _ hused
      obtain ⟨o, ho, hall⟩ := hpaths path (heach q hq).1
      exact ⟨o, ho, fun q hq => (heach q hq).2 R I o hall⟩

/-- A record that is given an object that satisfies everything at each path is only bound by the clauses about
itself. -/
private theorem covers_none (h : Entails.{u} [queryOf ps] (queryOf qs)) {x : Placed} (hx : x ∈ qs)
    (hscope : x.1.scope = none) {k : Criterion} (hk : x.2 = k.clause) :
    Entails.{u} (Placed.standing none ps) x.2 := by
  intro R I r hself
  let J := I.graft r Reading.top fun _ _ => True
  have hps : J.Holds (queryOf ps) none := by
    refine Reading.holds_queryOf_iff.2 ⟨fun q hq => Reading.holds_graft_none (hself q hq), fun path _ => ?_⟩
    exact Reading.exists_nested_graft.2 (Or.inr ⟨⟨⟩, trivial, fun q _ => Reading.holds_top q⟩)
  have hqs : J.Holds (queryOf qs) none := h _ J none fun q hq => by rwa [List.mem_singleton.1 hq]
  have hclause := (Reading.holds_queryOf_iff.1 hqs).1 x.2 (Placed.mem_standing_iff.2 ⟨x, hx, hscope, rfl⟩)
  rw [hk] at hclause ⊢
  exact Reading.holds_graft_criterion.1 hclause

/-- A path whose clauses do not follow from those about the record is bound only by the clauses of the path. -/
private theorem covers_path (h : Entails.{u} [queryOf ps] (queryOf qs)) {path : String} {q : Clause}
    (hq : q ∈ Placed.standing (some path) qs)
    (hwhole : ¬ Entails.{u} (Placed.standing none ps) (.nested path (.must (Placed.standing (some path) qs)))) :
    Placed.standing (some path) ps ≠ [] ∧ Entails.{u} (Placed.standing (some path) ps) q := by
  obtain ⟨R, I, r, hself, hnone⟩ := not_entails_iff.1 hwhole
  have hqused : Placed.standing (some path) qs ≠ [] := List.ne_nil_of_mem hq
  have hold : ¬ ∃ o, I.nested r path o ∧ ∀ q ∈ Placed.standing (some path) qs, I.Holds q o :=
    fun ⟨o, ho, hall⟩ => hnone (Reading.holds_nested.2 ⟨o, ho, Reading.holds_must.2 hall⟩)
  -- the record with objects that satisfy everything at all other paths
  let J := I.graft r Reading.top.{u} fun p _ => p ≠ path
  have hselfJ : ∀ q ∈ Placed.standing none ps, J.Holds q none := fun q hq => Reading.holds_graft_none (hself q hq)
  have hother : ∀ p, p ≠ path → ∃ o, J.nested none p o ∧ ∀ q ∈ Placed.standing (some p) ps, J.Holds q o :=
    fun p hp => Reading.exists_nested_graft.2 (Or.inr ⟨⟨⟩, hp, fun q _ => Reading.holds_top q⟩)
  have hnoneJ : ¬ ∃ o, J.nested none path o ∧ ∀ q ∈ Placed.standing (some path) qs, J.Holds q o := by
    intro hobject
    rcases Reading.exists_nested_graft.1 hobject with hobject | ⟨_, hpath, _⟩
    · exact hold hobject
    · exact hpath rfl
  have hused : Placed.standing (some path) ps ≠ [] := by
    intro hunused
    have hps : J.Holds (queryOf ps) none := by
      refine Reading.holds_queryOf_iff.2 ⟨hselfJ, fun p hp => hother p ?_⟩
      rintro rfl
      exact hp hunused
    have hqs : J.Holds (queryOf qs) none := h _ J none fun q hq => by rwa [List.mem_singleton.1 hq]
    exact hnoneJ ((Reading.holds_queryOf_iff.1 hqs).2 path hqused)
  refine ⟨hused, fun S I' o hpath => ?_⟩
  -- the same record with one more object at the path
  let K := J.graft none I' fun p o' => p = path ∧ o' = o
  have hps : K.Holds (queryOf ps) none := by
    refine Reading.holds_queryOf_iff.2 ⟨fun q hq => Reading.holds_graft_none (hselfJ q hq), fun p _ => ?_⟩
    by_cases hp : p = path
    · subst hp
      exact Reading.exists_nested_graft.2 (Or.inr ⟨o, ⟨rfl, rfl⟩, hpath⟩)
    · exact Reading.exists_nested_graft.2 (Or.inl (hother p hp))
  have hqs : K.Holds (queryOf qs) none := h _ K none fun q hq => by rwa [List.mem_singleton.1 hq]
  have hobject := (Reading.holds_queryOf_iff.1 hqs).2 path hqused
  rcases Reading.exists_nested_graft.1 hobject with hobject | ⟨_, ⟨-, rfl⟩, hall⟩
  · exact absurd hobject hnoneJ
  · exact hall q hq

/-- One query entails another just when its clauses account for each clause of the other, if those clauses about the
record itself that it lacks come from criteria. -/
theorem entails_queryOf_iff (hcriteria : ∀ x ∈ qs, x.1.scope = none → x ∈ ps ∨ ∃ k : Criterion, x.2 = k.clause) :
    Entails.{u} [queryOf ps] (queryOf qs) ↔ ∀ x ∈ qs, Covers.{u} ps qs x := by
  refine ⟨fun h x hx => ?_, entails_of_covers⟩
  cases hscope : x.1.scope with
  | none =>
    refine Or.inl ⟨fun hne => absurd hscope hne, ?_⟩
    rcases hcriteria x hx hscope with hmem | ⟨k, hk⟩
    · exact entails_of_mem (Placed.standing_of_mem hmem)
    · rw [hscope]
      exact covers_none h hx hscope hk
  | some path =>
    have hq : x.2 ∈ Placed.standing (some path) qs := by
      rw [← hscope]
      exact Placed.standing_of_mem hx
    by_cases hwhole : Entails.{u} (Placed.standing none ps) (.nested path (.must (Placed.standing (some path) qs)))
    · exact Or.inr ⟨path, hscope, hwhole⟩
    · obtain ⟨hused, hent⟩ := covers_path h hq hwhole
      rw [Covers, hscope]
      exact Or.inl ⟨fun _ => hused, hent⟩

end Config

end FacetedSearch
