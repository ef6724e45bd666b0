import FacetedSearch.Clause.Reader
import FacetedSearch.Clause.Writer
import FacetedSearch.Proofs.Json.Proper

/-!
# Reading a written clause

Writing a clause and reading it again keeps the clause, except that raw clauses come back as what their values are
read as.  `Clause.reread` is that clause.

* `ofJson_toJson`: reading what was written gives the clause reread.
* `reread_ofJson`: a clause that was read stays as it is, so one reading is enough.
-/

namespace FacetedSearch

namespace Clause

mutual

/-- The clause with every raw clause replaced by the clause that its value is read as. -/
def reread : Clause → Clause
  | .matchAll => .matchAll
  | .term f v => .term f v
  | .missing f => .missing f
  | .range f low high => .range f low high
  | .text q => .text q
  | .bool m s => .bool (rereadList m) (rereadList s)
  | .and cs => .and (rereadList cs)
  | .nested p q => .nested p (reread q)
  | .filtered q f => .filtered (reread q) (reread f)
  | .raw v => ofJson v

/-- Every clause reread. -/
def rereadList : List Clause → List Clause
  | [] => []
  | c :: cs => reread c :: rereadList cs

end

theorem rereadList_eq_map (cs : List Clause) : rereadList cs = cs.map reread := by
  induction cs with
  | nil => rfl
  | cons c cs ih => simp [rereadList, ih]

/-! ### Reading undoes writing -/

private theorem parse_name (l : Logic) : (Logic.parse l.name).toOption = some l := by
  have h : asciiUpper l.name = l.name := by cases l <;> decide
  rw [Logic.parse, h, Logic.ofName?_name]
  rfl

private theorem readText_entries (q : TextQuery) : readText (.obj q.entries) = some (.text q) := by
  obtain ⟨text, field, operator⟩ := q
  cases field <;> cases operator <;>
    simp [readText, TextQuery.entries, Json.get?, Entries.get?_cons, Entries.get?_nil, Json.str?, parse_name]

/-- An arm of a `bool` clause is read as the clauses that were written, also when it was left out. -/
private theorem armAt_armEntry (m s : List Json) :
    onlyArms (armEntry "must" m ++ armEntry "should" s) = true ∧
      armAt (armEntry "must" m ++ armEntry "should" s) "must" = ofJsonList m ∧
      armAt (armEntry "must" m ++ armEntry "should" s) "should" = ofJsonList s := by
  cases m <;> cases s <;> simp [armEntry, onlyArms, armAt, ofJsonList]

mutual

theorem ofJson_toJson : ∀ c : Clause, ofJson c.toJson = c.reread
  | .matchAll => rfl
  | .term f v => rfl
  | .missing f => rfl
  | .range f low high => rfl
  | .text q => by
    simp [toJson, Json.keyed, ofJson, readBody, readText_entries, reread]
  | .bool m s => by
    obtain ⟨honly, hmust, hshould⟩ := armAt_armEntry (toJsonList m) (toJsonList s)
    simp [toJson, Json.keyed, ofJson, readBody, reread, honly, hmust, hshould, ofJsonList_toJsonList m,
      ofJsonList_toJsonList s]
  | .and cs => by
    simp [toJson, Json.keyed, ofJson, readBody, reread, ofJsonList_toJsonList cs]
  | .nested p q => by
    simp [toJson, Json.keyed, ofJson, readBody, reread, readPath, clauseAt, ofJson_toJson q, Json.get?,
      Entries.get?_cons, Json.str?]
  | .filtered q f => by
    simp [toJson, Json.keyed, ofJson, readBody, reread, clauseAt, ofJson_toJson q, ofJson_toJson f]
  | .raw v => by rw [toJson, reread]

theorem ofJsonList_toJsonList : ∀ cs : List Clause, ofJsonList (toJsonList cs) = rereadList cs
  | [] => rfl
  | c :: cs => by
    rw [toJsonList, ofJsonList, rereadList, ofJson_toJson c, ofJsonList_toJsonList cs]

end

/-! ### The form of a clause that was read -/

/-- The clauses that a clause is made of. -/
def members : Clause → List Clause
  | .bool m s => m ++ s
  | .and cs => cs
  | .nested _ q => [q]
  | .filtered q f => [q, f]
  | _ => []

/-- A clause that is not raw and not made of other clauses. -/
def Plain : Clause → Prop
  | .matchAll | .term .. | .missing _ | .range .. | .text _ => True
  | _ => False

/-- What reading the value of a familiar shape gives: what a part of it is read as, or a clause whose members are
plain or read from parts of it. -/
inductive Form (v : Json) : Clause → Prop
  | part {w : Json} (hw : w.Inside v) : Form v (ofJson w)
  | built {q : Clause} (hraw : ∀ u, q ≠ .raw u)
      (hmem : ∀ m ∈ q.members, m.Plain ∨ ∃ w : Json, w.Inside v ∧ m = ofJson w) : Form v q

private theorem form_of_plain {v : Json} {q : Clause} (h : q.Plain) : Form v q := by
  cases q with
  | bool _ _ | and _ | nested _ _ | filtered _ _ | raw _ => exact h.elim
  | _ => exact .built (fun _ => Clause.noConfusion) (by simp [members])

private theorem mem_of_mapM {names : List Json} {cs : List Clause}
    (h : names.mapM (fun n => n.str?.map Clause.missing) = some cs) : ∀ q ∈ cs, ∃ f, q = .missing f := by
  induction names generalizing cs with
  | nil => cases h; simp
  | cons n ns ih =>
    simp only [List.mapM_cons, Option.bind_eq_bind, Option.bind_eq_some_iff, Option.map_eq_some_iff] at h
    obtain ⟨_, ⟨f, -, rfl⟩, ds, hds, h⟩ := h
    cases h
    intro q hq
    rcases List.mem_cons.1 hq with rfl | hq
    · exact ⟨f, rfl⟩
    · exact ih hds q hq

/-- Flattening changes nothing when no member is a conjunction. -/
theorem flatMap_conjuncts {cs : List Clause} (h : ∀ q ∈ cs, ∀ ds, q ≠ .and ds) : cs.flatMap conjuncts = cs := by
  induction cs with
  | nil => rfl
  | cons q qs ih =>
    have hq : q.conjuncts = [q] := by
      cases q with
      | and ds => exact absurd rfl (h _ (List.mem_cons_self ..) ds)
      | _ => rfl
    rw [List.flatMap_cons, hq, ih fun r hr => h r (List.mem_cons_of_mem _ hr)]
    rfl

private theorem form_all {v : Json} {cs : List Clause} (h : ∀ q ∈ cs, ∃ f, q = .missing f) : Form v (all cs) := by
  have hflat : cs.flatMap conjuncts = cs := flatMap_conjuncts fun q hq ds heq => by
    obtain ⟨f, rfl⟩ := h q hq
    cases heq
  unfold all
  rw [hflat]
  split
  · obtain ⟨f, rfl⟩ := h _ (List.mem_cons_self ..)
    exact form_of_plain trivial
  · refine .built (fun _ => Clause.noConfusion) fun m hm => Or.inl ?_
    obtain ⟨f, rfl⟩ := h m hm
    trivial

private theorem form_readMissing {v body : Json} {q : Clause} (h : readMissing body = some q) : Form v q := by
  simp only [readMissing, Option.bind_eq_bind, Option.bind_eq_some_iff] at h
  obtain ⟨field, -, h⟩ := h
  split at h
  · cases h
    exact form_of_plain trivial
  · obtain ⟨cs, hcs, h⟩ := Option.bind_eq_some_iff.1 h
    split at h <;> cases h
    exact form_all (mem_of_mapM hcs)
  · cases h

private theorem form_readTerm {v body : Json} {q : Clause} (h : readTerm body = some q) : Form v q := by
  simp only [readTerm, Option.bind_eq_bind, Option.bind_eq_some_iff] at h
  obtain ⟨_, -, _, -, h⟩ := h
  cases h
  exact form_of_plain trivial

private theorem form_readRange {v body : Json} {q : Clause} (h : readRange body = some q) : Form v q := by
  simp only [readRange, Option.bind_eq_bind, Option.bind_eq_some_iff] at h
  obtain ⟨_, -, _, -, _, -, _, -, _, -, h⟩ := h
  cases h
  exact form_of_plain trivial

private theorem form_readText {v body : Json} {q : Clause} (h : readText body = some q) : Form v q := by
  simp only [readText, Option.bind_eq_bind, Option.bind_eq_some_iff] at h
  obtain ⟨_, -, _, -, h⟩ := h
  cases h
  exact form_of_plain trivial

private theorem mem_armAt {es : Entries Json} {key : String} {q : Clause} (h : q ∈ armAt es key) :
    ∃ w : Json, w.Inside (.obj es) ∧ q = ofJson w := by
  rw [armAt_eq] at h
  cases hv : es.get? key with
  | none => simp [hv] at h
  | some v =>
    have hin := Json.Inside.of_get? hv
    simp only [hv, Option.map_some, Option.getD_some, readArm] at h
    split at h
    · obtain ⟨w, hw, rfl⟩ := List.mem_map.1 h
      exact ⟨w, .trans (.item hw) hin, rfl⟩
    · exact ⟨v, hin, List.mem_singleton.1 h⟩

private theorem mem_itemsAt {es : Entries Json} {key : String} {cs : List Clause} (h : itemsAt es key = some cs) :
    ∀ q ∈ cs, ∃ w : Json, w.Inside (.obj es) ∧ q = ofJson w := by
  rw [itemsAt_eq] at h
  obtain ⟨vs, hvs, rfl⟩ := Option.map_eq_some_iff.1 h
  obtain ⟨v, hv, hitems⟩ := Option.bind_eq_some_iff.1 hvs
  cases v with
  | arr us =>
    cases hitems
    intro q hq
    obtain ⟨w, hw, rfl⟩ := List.mem_map.1 hq
    exact ⟨w, .trans (.item hw) (.of_get? hv), rfl⟩
  | _ => cases hitems

private theorem mem_clauseAt {es : Entries Json} {key : String} {q : Clause} (h : clauseAt es key = some q) :
    ∃ w : Json, w.Inside (.obj es) ∧ q = ofJson w := by
  rw [clauseAt_eq] at h
  obtain ⟨w, hw, rfl⟩ := Option.map_eq_some_iff.1 h
  exact ⟨w, .of_get? hw, rfl⟩

/-- A filtered clause is built from its halves; without a filter it is its query alone. -/
private theorem form_filtered {v : Json} {es : Entries Json} (hes : (Json.obj es).Inside v) {q : Clause}
    (h : (match clauseAt es "filter" with
      | some f => some (.filtered ((clauseAt es "query").getD .matchAll) f)
      | none => some ((clauseAt es "query").getD .matchAll)) = some q) : Form v q := by
  have hquery : (clauseAt es "query").getD .matchAll = .matchAll ∨
      ∃ w : Json, w.Inside v ∧ (clauseAt es "query").getD .matchAll = ofJson w := by
    cases hq : clauseAt es "query" with
    | none => exact Or.inl rfl
    | some p =>
      obtain ⟨w, hw, rfl⟩ := mem_clauseAt hq
      exact Or.inr ⟨w, hw.trans hes, rfl⟩
  cases hf : clauseAt es "filter" with
  | none =>
    rw [hf] at h
    cases h
    rcases hquery with hplain | ⟨w, hw, hread⟩
    · rw [hplain]
      exact form_of_plain trivial
    · rw [hread]
      exact .part hw
  | some f =>
    rw [hf] at h
    cases h
    refine .built (fun _ => Clause.noConfusion) fun m hm => ?_
    rcases List.mem_cons.1 hm with rfl | hm
    · rcases hquery with hplain | hread
      · rw [hplain]
        exact Or.inl trivial
      · exact Or.inr hread
    · rw [List.mem_singleton.1 hm]
      obtain ⟨w, hw, hread⟩ := mem_clauseAt hf
      exact Or.inr ⟨w, hw.trans hes, hread⟩

private theorem form_readBody {kind : String} {body : Json} {q : Clause} (h : readBody kind body = some q) :
    Form (.obj [(kind, body)]) q := by
  have hbody : body.Inside (.obj [(kind, body)]) := .entry (k := kind) (List.mem_singleton.2 rfl)
  have hmatch : Form (.obj [(kind, body)]) .matchAll := form_of_plain trivial
  rw [readBody.eq_def] at h
  split at h
  · -- an object: the kinds one by one
    rename_i es
    have hparts : ∀ {m : Clause}, (∃ w : Json, w.Inside (.obj es) ∧ m = ofJson w) →
        m.Plain ∨ ∃ w : Json, w.Inside (.obj [(kind, .obj es)]) ∧ m = ofJson w :=
      fun ⟨w, hw, hm⟩ => Or.inr ⟨w, hw.trans hbody, hm⟩
    split at h
    · cases h; exact hmatch
    · exact form_readTerm h
    · exact form_readMissing h
    · exact form_readRange h
    · exact form_readText h
    · split at h <;> cases h
      refine .built (fun _ => Clause.noConfusion) fun m hm => hparts ?_
      rcases List.mem_append.1 hm with hm | hm <;> exact mem_armAt hm
    · obtain ⟨cs, hcs, rfl⟩ := Option.map_eq_some_iff.1 h
      exact .built (fun _ => Clause.noConfusion) fun m hm => hparts (mem_itemsAt hcs m hm)
    · split at h
      · rename_i hq
        cases h
        refine .built (fun _ => Clause.noConfusion) fun m hm => hparts ?_
        rw [List.mem_singleton.1 hm]
        exact mem_clauseAt hq
      · cases h
    · exact form_filtered hbody h
    · cases h
  · -- an array: only a conjunction has parts
    rename_i vs
    split at h
    · cases h; exact hmatch
    · cases h; exact hmatch
    · cases h
      refine .built (fun _ => Clause.noConfusion) fun m hm => ?_
      rw [members, ofJsonList_eq_map] at hm
      obtain ⟨w, hw, rfl⟩ := List.mem_map.1 hm
      exact Or.inr ⟨w, .trans (.item hw) hbody, rfl⟩
    · cases h
  · split at h <;> cases h <;> exact hmatch

/-- A value is kept as it is, or read by its parts. -/
theorem form_ofJson (v : Json) : ofJson v = .raw v ∨ Form v (ofJson v) := by
  rw [ofJson.eq_def]
  split
  · rename_i kind body
    cases h : readBody kind body with
    | none => exact Or.inl rfl
    | some q => exact Or.inr (form_readBody h)
  · exact Or.inl rfl

/-- A raw clause that was read holds the value itself or a part of it. -/
theorem inside_of_ofJson_eq_raw {v u : Json} (h : ofJson v = .raw u) : u = v ∨ u.Inside v := by
  rcases form_ofJson v with hkept | hform
  · exact Or.inl (Clause.raw.inj (h.symm.trans hkept))
  · generalize hq : ofJson v = q at h hform
    cases hform with
    | part hw =>
      rcases inside_of_ofJson_eq_raw h with rfl | hin
      · exact Or.inr hw
      · exact Or.inr (hin.trans hw)
    | built hraw => exact absurd h (hraw u)
termination_by v
decreasing_by exact hw.sizeOf_lt

/-- The values that are kept are those whose body cannot be read. -/
theorem readBody_eq_none_of_kept {kind : String} {body : Json}
    (h : ofJson (.obj [(kind, body)]) = .raw (.obj [(kind, body)])) : readBody kind body = none := by
  cases hread : readBody kind body with
  | none => rfl
  | some q =>
    have hq : q = .raw (.obj [(kind, body)]) := by
      rw [ofJson, hread] at h
      exact h
    rw [hq] at hread
    generalize hraw : Clause.raw (.obj [(kind, body)]) = r at hread
    cases form_readBody hread with
    | part hw =>
      rcases inside_of_ofJson_eq_raw hraw.symm with rfl | hin
      · exact absurd hw.sizeOf_lt (Nat.lt_irrefl _)
      · exact absurd (hin.trans hw).sizeOf_lt (Nat.lt_irrefl _)
    | built hne => exact absurd hraw.symm (hne _)

/-! ### Reading once is enough -/

private theorem rereadList_eq_self {cs : List Clause} (h : ∀ q ∈ cs, q.reread = q) : rereadList cs = cs := by
  induction cs with
  | nil => rfl
  | cons c cs ih =>
    rw [rereadList, h c (List.mem_cons_self ..), ih fun q hq => h q (List.mem_cons_of_mem _ hq)]

theorem Plain.reread_eq {q : Clause} (h : q.Plain) : q.reread = q := by
  cases q with
  | bool _ _ | and _ | nested _ _ | filtered _ _ | raw _ => exact h.elim
  | _ => rfl

/-- A clause without raw members that change stays as it is. -/
theorem reread_eq_self {q : Clause} (hraw : ∀ u, q ≠ .raw u) (h : ∀ m ∈ q.members, m.reread = m) :
    q.reread = q := by
  cases q with
  | raw v => exact absurd rfl (hraw v)
  | bool m s =>
    rw [reread, rereadList_eq_self fun q hq => h q (List.mem_append_left _ hq),
      rereadList_eq_self fun q hq => h q (List.mem_append_right _ hq)]
  | and cs =>
    have hcs : ∀ q ∈ cs, q.reread = q := h
    rw [reread, rereadList_eq_self hcs]
  | nested p q => rw [reread, h q (by simp [members])]
  | filtered q f => rw [reread, h q (by simp [members]), h f (by simp [members])]
  | _ => rfl

theorem reread_ofJson (v : Json) : (ofJson v).reread = ofJson v := by
  rcases form_ofJson v with hkept | hform
  · rw [hkept, reread, hkept]
  · generalize hq : ofJson v = q at hform
    cases hform with
    | part hw => exact reread_ofJson _
    | built hraw hmem =>
      apply reread_eq_self hraw
      intro m hm
      rcases hmem m hm with hplain | ⟨w, hw, rfl⟩
      · exact hplain.reread_eq
      · exact reread_ofJson w
termination_by v
decreasing_by all_goals exact hw.sizeOf_lt

end Clause

end FacetedSearch
