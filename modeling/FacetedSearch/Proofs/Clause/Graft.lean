import FacetedSearch.Proofs.Clause.Meaning

/-!
# Putting readings together

No clause can say that something does not hold, so a clause that holds of a record holds of every record with at least
the same atoms and nested objects.  To show that clauses do not entail another one, a record of one reading is given
further nested objects from another: all that held of it still does.

* `Simulates.holds`: a clause goes over from a record to one that has as much.
* `holds_top`: in one reading a record satisfies every clause.
* `Reading.graft`: a record with further nested objects; `exists_nested_graft` says which it has.
* `Entails`: what follows from clauses in every reading.
-/

namespace FacetedSearch

universe u

namespace Reading

variable {R S : Type u}

/-- Related records: the second has the atoms of the first, and for each nested object of it a related one. -/
structure Simulates (I : Reading R) (J : Reading S) (rel : R → S → Prop) : Prop where
  term : ∀ {r s}, rel r s → ∀ f v, I.term r f v → J.term s f v
  missing : ∀ {r s}, rel r s → ∀ f, I.missing r f → J.missing s f
  range : ∀ {r s}, rel r s → ∀ f low high, I.range r f low high → J.range s f low high
  text : ∀ {r s}, rel r s → ∀ q, I.text r q → J.text s q
  raw : ∀ {r s}, rel r s → ∀ v, I.raw r v → J.raw s v
  nested : ∀ {r s}, rel r s → ∀ p o, I.nested r p o → ∃ o', J.nested s p o' ∧ rel o o'

section

variable {I : Reading R} {J : Reading S} {rel : R → S → Prop}

mutual

/-- What a record satisfies, a related record satisfies. -/
theorem Simulates.satisfies (h : Simulates I J rel) : ∀ (q : Clause) {r : R} {s : S}, rel r s →
    I.Satisfies q r → J.Satisfies q s
  | .matchAll, _, _, _, _ => trivial
  | .term f v, _, _, hrel, hq => h.term hrel f v hq
  | .missing f, _, _, hrel, hq => h.missing hrel f hq
  | .range f low high, _, _, hrel, hq => h.range hrel f low high hq
  | .text q, _, _, hrel, hq => h.text hrel q hq
  | .bool m cs, _, _, hrel, hq =>
    ⟨h.satisfiesAll m hrel hq.1, hq.2.imp id fun hany => h.satisfiesAny cs hrel hany⟩
  | .and cs, _, _, hrel, hq => h.satisfiesAll cs hrel hq
  | .nested p q, _, _, hrel, ⟨o, ho, hq⟩ =>
    let ⟨o', ho', hrel'⟩ := h.nested hrel p o ho
    ⟨o', ho', h.satisfies q hrel' hq⟩
  | .filtered q f, _, _, hrel, hq => ⟨h.satisfies q hrel hq.1, h.satisfies f hrel hq.2⟩
  | .raw v, _, _, hrel, hq => h.raw hrel v hq

theorem Simulates.satisfiesAll (h : Simulates I J rel) : ∀ (cs : List Clause) {r : R} {s : S}, rel r s →
    I.SatisfiesAll cs r → J.SatisfiesAll cs s
  | [], _, _, _, _ => trivial
  | c :: cs, _, _, hrel, hq => ⟨h.satisfies c hrel hq.1, h.satisfiesAll cs hrel hq.2⟩

theorem Simulates.satisfiesAny (h : Simulates I J rel) : ∀ (cs : List Clause) {r : R} {s : S}, rel r s →
    I.SatisfiesAny cs r → J.SatisfiesAny cs s
  | [], _, _, _, hq => hq.elim
  | c :: cs, _, _, hrel, hq =>
    hq.imp (fun hc => h.satisfies c hrel hc) fun hany => h.satisfiesAny cs hrel hany

end

theorem Simulates.holds (h : Simulates I J rel) {q : Clause} {r : R} {s : S} (hrel : rel r s) (hq : I.Holds q r) :
    J.Holds q s := h.satisfies q.reread hrel hq

end

/-! ### Copies -/

/-- The records that a map leads to have the same atoms as those it comes from, and the same nested objects. -/
structure Copies (I : Reading R) (J : Reading S) (copy : R → S) : Prop where
  term : ∀ r, J.term (copy r) = I.term r
  missing : ∀ r, J.missing (copy r) = I.missing r
  range : ∀ r, J.range (copy r) = I.range r
  text : ∀ r, J.text (copy r) = I.text r
  raw : ∀ r, J.raw (copy r) = I.raw r
  nested : ∀ r p y, J.nested (copy r) p y ↔ ∃ o, I.nested r p o ∧ y = copy o

theorem Copies.holds_iff {I : Reading R} {J : Reading S} {copy : R → S} (h : Copies I J copy) {q : Clause} {r : R} :
    J.Holds q (copy r) ↔ I.Holds q r := by
  have hback : Simulates J I fun x o => x = copy o := by
    constructor
    · rintro _ o rfl f v hq
      rwa [h.term] at hq
    · rintro _ o rfl f hq
      rwa [h.missing] at hq
    · rintro _ o rfl f low high hq
      rwa [h.range] at hq
    · rintro _ o rfl q hq
      rwa [h.text] at hq
    · rintro _ o rfl v hq
      rwa [h.raw] at hq
    · rintro _ o rfl p y hy
      exact (h.nested o p y).1 hy
  have hforth : Simulates I J fun o x => x = copy o := by
    constructor
    · rintro o _ rfl f v hq
      rwa [h.term]
    · rintro o _ rfl f hq
      rwa [h.missing]
    · rintro o _ rfl f low high hq
      rwa [h.range]
    · rintro o _ rfl q hq
      rwa [h.text]
    · rintro o _ rfl v hq
      rwa [h.raw]
    · rintro o _ rfl p o' ho'
      exact ⟨copy o', (h.nested o p _).2 ⟨o', ho', rfl⟩, rfl⟩
  exact ⟨hback.holds rfl, hforth.holds rfl⟩

/-! ### A record that satisfies everything -/

/-- The reading with a single record that has all atoms and contains itself everywhere. -/
def top : Reading PUnit.{u + 1} where
  term _ _ _ := True
  missing _ _ := True
  range _ _ _ _ := True
  text _ _ := True
  raw _ _ := True
  nested _ _ _ := True

mutual

private theorem satisfies_top : ∀ (q : Clause), (top.{u}).Satisfies q ⟨⟩
  | .matchAll | .term _ _ | .missing _ | .range _ _ _ | .text _ | .raw _ => trivial
  | .bool m cs => ⟨satisfiesAll_top m, satisfiesAny_top cs⟩
  | .and cs => satisfiesAll_top cs
  | .nested _ q => ⟨⟨⟩, trivial, satisfies_top q⟩
  | .filtered q f => ⟨satisfies_top q, satisfies_top f⟩

private theorem satisfiesAll_top : ∀ (cs : List Clause), (top.{u}).SatisfiesAll cs ⟨⟩
  | [] => trivial
  | c :: cs => ⟨satisfies_top c, satisfiesAll_top cs⟩

private theorem satisfiesAny_top : ∀ (cs : List Clause), cs = [] ∨ (top.{u}).SatisfiesAny cs ⟨⟩
  | [] => Or.inl rfl
  | c :: _ => Or.inr (Or.inl (satisfies_top c))

end

theorem holds_top (q : Clause) : (top.{u}).Holds q ⟨⟩ := satisfies_top q.reread

/-! ### A record with further nested objects -/

/-- A reading with a new record: it has the atoms and nested objects of an old one, and beside these further nested
objects, which come from another reading. -/
def graft (I : Reading R) (r : R) (J : Reading S) (more : String → S → Prop) : Reading (Option (R ⊕ S)) where
  term x f v := x.elim (I.term r f v) (Sum.elim (I.term · f v) (J.term · f v))
  missing x f := x.elim (I.missing r f) (Sum.elim (I.missing · f) (J.missing · f))
  range x f low high := x.elim (I.range r f low high) (Sum.elim (I.range · f low high) (J.range · f low high))
  text x q := x.elim (I.text r q) (Sum.elim (I.text · q) (J.text · q))
  raw x v := x.elim (I.raw r v) (Sum.elim (I.raw · v) (J.raw · v))
  nested x p y :=
    match x, y with
    | none, some (.inl o) => I.nested r p o
    | none, some (.inr o) => more p o
    | some (.inl x), some (.inl o) => I.nested x p o
    | some (.inr x), some (.inr o) => J.nested x p o
    | _, _ => False

section

variable {I : Reading R} {r : R} {J : Reading S} {more : String → S → Prop} {q : Clause}

/-- The old record and all others of its reading stay what they are. -/
theorem holds_graft_inl {o : R} : (I.graft r J more).Holds q (some (.inl o)) ↔ I.Holds q o := by
  have hcopies : Copies I (I.graft r J more) fun o => some (.inl o) := by
    refine ⟨fun _ => rfl, fun _ => rfl, fun _ => rfl, fun _ => rfl, fun _ => rfl, fun o p y => ?_⟩
    rcases y with _ | y | y <;> simp [graft]
  exact hcopies.holds_iff

theorem holds_graft_inr {o : S} : (I.graft r J more).Holds q (some (.inr o)) ↔ J.Holds q o := by
  have hcopies : Copies J (I.graft r J more) fun o => some (.inr o) := by
    refine ⟨fun _ => rfl, fun _ => rfl, fun _ => rfl, fun _ => rfl, fun _ => rfl, fun o p y => ?_⟩
    rcases y with _ | y | y <;> simp [graft]
  exact hcopies.holds_iff

/-- What holds of the old record holds of the new one. -/
theorem holds_graft_none (h : I.Holds q r) : (I.graft r J more).Holds q none := by
  -- the old record is related both to itself and to the new one
  have hmore : Simulates I (I.graft r J more) fun o x => x = some (.inl o) ∨ x = none ∧ o = r := by
    constructor
    · rintro o _ (rfl | ⟨rfl, rfl⟩) f v hq <;> exact hq
    · rintro o _ (rfl | ⟨rfl, rfl⟩) f hq <;> exact hq
    · rintro o _ (rfl | ⟨rfl, rfl⟩) f low high hq <;> exact hq
    · rintro o _ (rfl | ⟨rfl, rfl⟩) q hq <;> exact hq
    · rintro o _ (rfl | ⟨rfl, rfl⟩) v hq <;> exact hq
    · rintro o _ (rfl | ⟨rfl, rfl⟩) p o' ho' <;> exact ⟨some (.inl o'), ho', Or.inl rfl⟩
  exact hmore.holds (Or.inr ⟨rfl, rfl⟩) h

/-- The nested objects of the new record: those of the old one, and the further ones. -/
theorem exists_nested_graft {path : String} {qs : List Clause} :
    (∃ y, (I.graft r J more).nested none path y ∧ ∀ q ∈ qs, (I.graft r J more).Holds q y) ↔
      (∃ o, I.nested r path o ∧ ∀ q ∈ qs, I.Holds q o) ∨ ∃ o, more path o ∧ ∀ q ∈ qs, J.Holds q o := by
  constructor
  · rintro ⟨_ | o | o, ho, hqs⟩
    · exact ho.elim
    · exact Or.inl ⟨o, ho, fun q hq => holds_graft_inl.1 (hqs q hq)⟩
    · exact Or.inr ⟨o, ho, fun q hq => holds_graft_inr.1 (hqs q hq)⟩
  · rintro (⟨o, ho, hqs⟩ | ⟨o, ho, hqs⟩)
    · exact ⟨some (.inl o), ho, fun q hq => holds_graft_inl.2 (hqs q hq)⟩
    · exact ⟨some (.inr o), ho, fun q hq => holds_graft_inr.2 (hqs q hq)⟩

end

end Reading

/-! ### Entailment -/

/-- Wherever the clauses of a list hold, another clause does. -/
def Entails (ps : List Clause) (q : Clause) : Prop :=
  ∀ (R : Type u) (I : Reading R) (r : R), (∀ p ∈ ps, I.Holds p r) → I.Holds q r

theorem entails_of_mem {ps : List Clause} {q : Clause} (h : q ∈ ps) : Entails.{u} ps q := fun _ _ _ hps => hps q h

theorem not_entails_iff {ps : List Clause} {q : Clause} :
    ¬ Entails.{u} ps q ↔ ∃ (R : Type u) (I : Reading R) (r : R), (∀ p ∈ ps, I.Holds p r) ∧ ¬ I.Holds q r := by
  simp only [Entails, Classical.not_forall, exists_prop]

end FacetedSearch
