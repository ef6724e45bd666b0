import FacetedSearch.Proofs.Compile.Entailment
import FacetedSearch.Proofs.Recover.RoundTrip

/-!
# The records that a reopened state selects

Opening what was compiled leaves out the criteria whose clauses, or clauses around them, equal filters, since every
search carries the filters anyway.  But a filter goes where its name says, and not where the criterion stood.  So the
reopened state selects all records that the state does, and it selects no others just when what it places accounts for
each criterion that was passed over.

* `covers_of_filter`: a filter accounts for the criteria in its own scope that it equals.
* `reopened_same_records_iff`: when a reopened state selects the same records.
* `loaded_same_records_iff`: the same for settings files that were read.
* `reopened_without_color`: a filter about nested objects takes the place of a criterion about the record.
-/

namespace FacetedSearch

universe u

/-! ### Criteria that equal filters -/

private theorem eq_of_same_plain {p q : Clause} (hq : q.Plain) (h : p.same q = true) : p = q := by
  cases q with
  | bool _ _ | and _ | nested _ _ | filtered _ _ | raw _ => exact hq.elim
  | _ =>
    cases p <;> simp only [Clause.same, Bool.and_eq_true, beq_iff_eq, Bool.false_eq_true] at h
    all_goals simp [h]

private theorem eq_of_sameList_plain {ps qs : List Clause} (hqs : ∀ q ∈ qs, q.Plain)
    (h : Clause.sameList ps qs = true) : ps = qs := by
  induction qs generalizing ps with
  | nil =>
    cases ps with
    | nil => rfl
    | cons p ps => cases h
  | cons q qs ih =>
    cases ps with
    | nil => cases h
    | cons p ps =>
      rw [Clause.sameList, Bool.and_eq_true] at h
      rw [eq_of_same_plain (hqs q (List.mem_cons_self ..)) h.1,
        ih (fun r hr => hqs r (List.mem_cons_of_mem _ hr)) h.2]

/-- The clause of a criterion has no raw members, so what equals it is the same clause. -/
theorem Criterion.eq_of_same {p : Clause} {k : Criterion} (h : p.same k.clause = true) : p = k.clause := by
  cases k with
  | one x => exact eq_of_same_plain (plain_clause x) h
  | oneOf key vs =>
    have hvs : ∀ q ∈ vs.map fun v => Selection.clause ⟨key, v, .or⟩, q.Plain := by
      intro q hq
      obtain ⟨v, -, rfl⟩ := List.mem_map.1 hq
      exact plain_clause _
    rw [clause, Clause.should] at h ⊢
    cases p with
    | bool m vs' =>
      have hnil : ∀ q ∈ ([] : List Clause), q.Plain := List.forall_mem_nil _
      rw [Clause.same, Bool.and_eq_true] at h
      rw [eq_of_sameList_plain hnil h.1, eq_of_sameList_plain hvs h.2]
    | _ => simp [Clause.same] at h
  | within g field => exact eq_of_same_plain trivial h
  | text q => exact eq_of_same_plain trivial h

theorem covers_of_mem {ps qs : List Placed} {x : Placed} (h : x ∈ ps) : Covers.{u} ps qs x :=
  have hstanding := Placed.standing_of_mem h
  Or.inl ⟨fun _ => List.ne_nil_of_mem hstanding, entails_of_mem hstanding⟩

namespace Config

variable {c : Config} {s s' : SearchState} {k : Criterion}

/-- A filter accounts for a criterion that it equals when its name stands under the same prefix as the criterion. -/
theorem covers_of_filter {name : String} {v : Json} (hv : (name, v) ∈ c.filters)
    (hsame : (Clause.ofJson v).same k.clause = true) (hscope : c.nestedPrefix name = c.scopeOf k) (qs : List Placed) :
    Covers.{u} (c.placed s) qs (k.placed c) := by
  have hfilter : Clause.raw v ∈ Placed.standing (k.placed c).1.scope (c.placed s) := by
    refine Placed.mem_standing_iff.2 ⟨_, mem_placed_iff.2 (Or.inr ⟨name, v, hv, rfl⟩), ?_, rfl⟩
    rw [scope_placeFor c name rfl, hscope]
    exact (scope_place c k).symm
  refine Or.inl ⟨fun _ => List.ne_nil_of_mem hfilter, fun R I r hall => ?_⟩
  have hread := Reading.holds_raw.1 (hall _ hfilter)
  rwa [Criterion.eq_of_same hsame] at hread

/-! ### What two states ask for -/

/-- One state asks for as much as another when what it places accounts for the other's criteria. -/
theorem compileQuery_entails_iff :
    Entails.{u} [c.compileQuery s'] (c.compileQuery s) ↔
      ∀ k ∈ c.criteria s, Covers.{u} (c.placed s') (c.placed s) (k.placed c) := by
  have hcriteria : ∀ x ∈ c.placed s, x.1.scope = none → x ∈ c.placed s' ∨ ∃ k : Criterion, x.2 = k.clause := by
    intro x hx _
    rcases mem_placed_iff.1 hx with ⟨k, -, rfl⟩ | hfilter
    · exact Or.inr ⟨k, rfl⟩
    · exact Or.inl (mem_placed_iff.2 (Or.inr hfilter))
  rw [compileQuery, compileQuery, entails_queryOf_iff hcriteria]
  constructor
  · intro hcovers k hk
    exact hcovers _ (mem_placed_iff.2 (Or.inl ⟨k, hk, rfl⟩))
  · intro hcovers x hx
    rcases mem_placed_iff.1 hx with ⟨k, hk, rfl⟩ | hfilter
    · exact hcovers k hk
    · exact covers_of_mem (mem_placed_iff.2 (Or.inr hfilter))

private theorem entails_iff {p q : Clause} :
    Entails.{u} [p] q ↔ ∀ (R : Type u) (I : Reading R) (r : R), I.Holds p r → I.Holds q r := by
  simp only [Entails, List.mem_singleton, forall_eq]

private theorem query_compile (c : Config) (s : SearchState) : (c.compile s).query = c.compileQuery s := rfl

/-- Two states select the same records when each accounts for the criteria of the other. -/
theorem same_records_iff (c : Config) (s s' : SearchState) :
    (∀ (R : Type u) (I : Reading R) (r : R), I.Holds (c.compile s').query r ↔ I.Holds (c.compile s).query r) ↔
      (∀ k ∈ c.criteria s, Covers.{u} (c.placed s') (c.placed s) (k.placed c)) ∧
        ∀ k ∈ c.criteria s', Covers.{u} (c.placed s) (c.placed s') (k.placed c) := by
  simp only [query_compile, ← compileQuery_entails_iff, entails_iff]
  constructor
  · intro hsame
    exact ⟨fun R I r => (hsame R I r).1, fun R I r => (hsame R I r).2⟩
  · rintro ⟨hback, hforth⟩ R I r
    exact ⟨hback R I r, hforth R I r⟩

/-- A reopened state asks for no more than the state, and for as much when it accounts for all criteria that were
passed over. -/
private theorem same_records_reopened (h : Reopened c s s' (c.recovered Clause.reread s)) :
    (∀ (R : Type u) (I : Reading R) (r : R), I.Holds (c.compile s).query r → I.Holds (c.compile s').query r) ∧
      ((∀ (R : Type u) (I : Reading R) (r : R), I.Holds (c.compile s').query r ↔ I.Holds (c.compile s).query r) ↔
        ∀ k ∈ c.criteria s, c.skips Clause.reread s k = true →
          Covers.{u} (c.placed s') (c.placed s) (k.placed c)) := by
  have hcriteria : ∀ k, k ∈ c.criteria s' ↔ k ∈ c.criteria s ∧ c.skips Clause.reread s k = false := fun k =>
    h.kinds.mem_criteria_iff.trans mem_recovered_iff
  have hforth : ∀ k ∈ c.criteria s', Covers.{u} (c.placed s) (c.placed s') (k.placed c) := fun k hk =>
    covers_of_mem (mem_placed_iff.2 (Or.inl ⟨k, ((hcriteria k).1 hk).1, rfl⟩))
  constructor
  · rw [query_compile, query_compile, ← entails_iff]
    exact compileQuery_entails_iff.2 hforth
  · rw [same_records_iff]
    constructor
    · rintro ⟨hback, -⟩ k hk -
      exact hback k hk
    · refine fun hskipped => ⟨fun k hk => ?_, hforth⟩
      cases hskips : c.skips Clause.reread s k with
      | true => exact hskipped k hk hskips
      | false => exact covers_of_mem (mem_placed_iff.2 (Or.inl ⟨k, (hcriteria k).2 ⟨hk, hskips⟩, rfl⟩))

/-- With settings files that were read and commands with values from texts, a reopened state selects every record that
the state selects, and it selects no others just when it accounts for the criteria that were passed over. -/
theorem loaded_same_records_iff {t : FileTree} {paths : List String} (hload : loadFiles t paths = .ok c)
    {cmds : List Command} (htext : ∀ cmd ∈ cmds, cmd.FromText) (hs : s = c.run c.startState cmds)
    (hs' : s' = c.run c.startState (c.recoverJson (c.compile s).toJson)) :
    (∀ (R : Type u) (I : Reading R) (r : R), I.Holds (c.compile s).query r → I.Holds (c.compile s').query r) ∧
      ((∀ (R : Type u) (I : Reading R) (r : R), I.Holds (c.compile s').query r ↔ I.Holds (c.compile s).query r) ↔
        ∀ k ∈ c.criteria s, c.skips Clause.reread s k = true →
          Covers.{u} (c.placed s') (c.placed s) (k.placed c)) := by
  subst hs hs'
  exact same_records_reopened (reopened (sound_of_loadFiles hload) (run_coherent c cmds) (run_readable htext))

end Config

/-- A state is compiled, and the commands recovered from the written document are carried out anew.  The state that
results selects the same records, however the atoms are read, just when what each of the two states places accounts
for the criteria of the other.  When the values of the state can be read from texts, it selects every record that the
state selects, and it selects no others just when it accounts for the criteria that were passed over. -/
theorem reopened_same_records_iff (sources : List Source) (c : Config) (hmerge : Config.merge sources = .ok c)
    (hproper : ∀ src ∈ sources, ∀ e ∈ src.layer.filters, e.2.Proper) (cmds : List Command) :
    let s := c.run c.startState cmds
    let first := c.compile s
    let s' := c.run c.startState (c.recoverJson first.toJson)
    let second := c.compile s'
    ((∀ (R : Type u) (I : Reading R) (r : R), I.Holds second.query r ↔ I.Holds first.query r) ↔
        (∀ k ∈ c.criteria s, Covers.{u} (c.placed s') (c.placed s) (k.placed c)) ∧
          ∀ k ∈ c.criteria s', Covers.{u} (c.placed s) (c.placed s') (k.placed c)) ∧
      (s.Readable →
        (∀ (R : Type u) (I : Reading R) (r : R), I.Holds first.query r → I.Holds second.query r) ∧
          ((∀ (R : Type u) (I : Reading R) (r : R), I.Holds second.query r ↔ I.Holds first.query r) ↔
            ∀ k ∈ c.criteria s, c.skips Clause.reread s k = true →
              Covers.{u} (c.placed s') (c.placed s) (k.placed c))) :=
  ⟨Config.same_records_iff c _ _, fun hread => Config.same_records_reopened
    (Config.reopened (Config.sound_of_merge hmerge hproper) (Config.run_coherent c cmds) hread)⟩

/-- A selection that equals a filter on its own key is passed over and comes back with the filter. -/
theorem reopened_selection_of_filter :
    let c : Config := {
      nested := ["stats"]
      filters := [("stats.color", .keyed "term" (.keyed "stats.color" (.str "red")))]
      root := some "" }
    let s := c.run c.startState [.addSelection "stats.color" (.term "red") (some .and), .setFreeText "storm"]
    let s' := c.run c.startState (c.recoverJson (c.compile s).toJson)
    s.Readable ∧ s.selections.length = 1 ∧ s'.selections = [] ∧
      ∀ (R : Type) (I : Reading R) (r : R), I.Holds (c.compile s').query r ↔ I.Holds (c.compile s).query r := by
  intro c s s'
  have hmerge : Config.merge [⟨"search.toml", {
      nested := some ["stats"]
      filters := [("stats.color", .keyed "term" (.keyed "stats.color" (.str "red")))] }⟩] = .ok c := by rfl
  have hread : s.Readable := Config.run_readable fun cmd hcmd => by
    simp only [List.mem_cons, List.not_mem_nil, or_false] at hcmd
    rcases hcmd with rfl | rfl
    · exact ⟨"red", rfl⟩
    · trivial
  have hcriteria : c.criteria s =
      [.one ⟨"stats.color", .term "red", .and⟩, .text ⟨"storm", none, some .or⟩] := by decide
  have hkept : c.skips Clause.reread s (.text ⟨"storm", none, some .or⟩) = false := by decide
  have hsame := reopened_same_records_iff _ c hmerge
    (fun src hsrc e he => by
      rw [List.mem_singleton.1 hsrc] at he
      rw [List.mem_singleton.1 he]
      exact Json.proper_keyed (Json.proper_keyed (Json.proper_of_sound trivial nofun nofun)))
    [.addSelection "stats.color" (.term "red") (some .and), .setFreeText "storm"]
  refine ⟨hread, by decide, by decide, (hsame.2 hread).2.2 fun k hk hskips => ?_⟩
  have hk : k ∈ c.criteria s := hk
  rw [hcriteria] at hk
  rcases List.mem_cons.1 hk with rfl | hk
  · exact Config.covers_of_filter (List.mem_cons_self ..) (by decide) (by decide) _
  · rw [List.mem_singleton.1 hk, hkept] at hskips
    cases hskips

/-- A filter about nested objects equals a selection about the record: the selection is passed over, and the reopened
state selects a record that lacks the color but has a nested object with it. -/
theorem reopened_without_color :
    let c : Config := {
      nested := ["stats"]
      filters := [("stats.red", .keyed "term" (.keyed "color" (.str "red")))]
      root := some "" }
    let s := c.run c.startState [.addSelection "color" (.term "red") (some .and)]
    let s' := c.run c.startState (c.recoverJson (c.compile s).toJson)
    Config.merge [⟨"search.toml", {
        nested := some ["stats"]
        filters := [("stats.red", .keyed "term" (.keyed "color" (.str "red")))] }⟩] = .ok c ∧
      ∃ (I : Reading Bool) (r : Bool), I.Holds (c.compile s').query r ∧ ¬ I.Holds (c.compile s).query r := by
  intro c s s'
  have hmerge : Config.merge [⟨"search.toml", {
      nested := some ["stats"]
      filters := [("stats.red", .keyed "term" (.keyed "color" (.str "red")))] }⟩] = .ok c := by rfl
  have hfilters : c.filters = [("stats.red", .keyed "term" (.keyed "color" (.str "red")))] := rfl
  have hscope : c.nestedPrefix "stats.red" = some "stats" := by decide
  have hfirst : .one ⟨"color", .term "red", .and⟩ ∈ c.criteria s := by decide
  have hself : c.scopeOf (.one ⟨"color", .term "red", .and⟩) = none := by decide
  have hsecond : c.criteria s' = [] := by decide
  have hread : Clause.ofJson (.keyed "term" (.keyed "color" (.str "red"))) = .term "color" "red" := by rfl
  clear_value c s s'
  let I : Reading Bool := {
    term r _ _ := r = true
    missing _ _ := False
    range _ _ _ _ := False
    text _ _ := False
    raw _ _ := False
    nested _ _ o := o = true }
  have hplaced : ∀ x ∈ c.placed s', x.1.scope = some "stats" ∧ I.Holds x.2 true := by
    intro x hx
    rcases Config.mem_placed_iff.1 hx with ⟨k, hk, rfl⟩ | ⟨name, v, hv, rfl⟩
    · rw [hsecond] at hk
      cases hk
    · rw [hfilters] at hv
      cases List.mem_singleton.1 hv
      refine ⟨(Config.scope_placeFor c "stats.red" rfl).trans hscope, ?_⟩
      rw [Reading.holds_raw, hread]
      rfl
  refine ⟨hmerge, I, false, Config.holds_queryOf.2 ⟨fun x hx hnone => ?_, fun path _ => ?_⟩, fun h => ?_⟩
  · rw [(hplaced x hx).1] at hnone
    cases hnone
  · exact ⟨true, rfl, fun x hx _ => (hplaced x hx).2⟩
  · have hcolor : I.Holds (.term "color" "red") false := (Config.holds_queryOf.1 h).1 _
      (Config.mem_placed_iff.2 (Or.inl ⟨_, hfirst, rfl⟩)) ((Config.scope_place c _).trans hself)
    exact Bool.false_ne_true hcolor

end FacetedSearch
