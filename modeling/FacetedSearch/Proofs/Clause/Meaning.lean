import FacetedSearch.Proofs.Clause.Reread

/-!
# The meaning of clauses

A reading says what the atoms of clauses mean over records of some kind, and which nested objects a record has.  All
else follows: a `bool` clause holds when all its `must` members hold and, if there are `should` members, one of them;
a conjunction when all members hold; a filtered clause when both halves hold; a nested clause when it holds of some
nested object; a raw clause when the clause holds that its value is read as.

* `holds_raw`: a raw clause means what its value is read as.
* `holds_all`, `holds_must`, `holds_should`: the meaning of the clauses that searches are built from.
-/

namespace FacetedSearch

universe u

/-- What the atoms of clauses mean over records, and which nested objects a record has at a path. -/
structure Reading (R : Type u) where
  term : R → String → String → Prop
  missing : R → String → Prop
  range : R → String → String → String → Prop
  text : R → TextQuery → Prop
  raw : R → Json → Prop
  nested : R → String → R → Prop

namespace Reading

variable {R : Type u}

mutual

/-- Whether a clause holds of a record, where raw clauses are atoms. -/
def Satisfies (I : Reading R) : Clause → R → Prop
  | .matchAll, _ => True
  | .term f v, r => I.term r f v
  | .missing f, r => I.missing r f
  | .range f low high, r => I.range r f low high
  | .text q, r => I.text r q
  | .bool m s, r => SatisfiesAll I m r ∧ (s = [] ∨ SatisfiesAny I s r)
  | .and cs, r => SatisfiesAll I cs r
  | .nested p q, r => ∃ o, I.nested r p o ∧ Satisfies I q o
  | .filtered q f, r => Satisfies I q r ∧ Satisfies I f r
  | .raw v, r => I.raw r v

/-- Whether all clauses of a list hold of a record. -/
def SatisfiesAll (I : Reading R) : List Clause → R → Prop
  | [], _ => True
  | c :: cs, r => Satisfies I c r ∧ SatisfiesAll I cs r

/-- Whether a clause of a list holds of a record. -/
def SatisfiesAny (I : Reading R) : List Clause → R → Prop
  | [], _ => False
  | c :: cs, r => Satisfies I c r ∨ SatisfiesAny I cs r

end

/-- Whether a clause holds of a record: raw clauses hold as what their values are read as. -/
def Holds (I : Reading R) (c : Clause) (r : R) : Prop := I.Satisfies c.reread r

private theorem satisfiesAll_reread {I : Reading R} {cs : List Clause} {r : R} :
    I.SatisfiesAll (Clause.rereadList cs) r ↔ ∀ c ∈ cs, I.Holds c r := by
  induction cs with
  | nil => simp [Clause.rereadList, SatisfiesAll]
  | cons c cs ih => simp [Clause.rereadList, SatisfiesAll, ih, Holds]

private theorem satisfiesAny_reread {I : Reading R} {cs : List Clause} {r : R} :
    I.SatisfiesAny (Clause.rereadList cs) r ↔ ∃ c ∈ cs, I.Holds c r := by
  induction cs with
  | nil => simp [Clause.rereadList, SatisfiesAny]
  | cons c cs ih => simp [Clause.rereadList, SatisfiesAny, ih, Holds]

/-- A raw clause means what its value is read as. -/
theorem holds_raw {I : Reading R} {v : Json} {r : R} : I.Holds (.raw v) r ↔ I.Holds (Clause.ofJson v) r := by
  rw [Holds, Holds, Clause.reread_ofJson]
  rfl

theorem holds_matchAll {I : Reading R} {r : R} : I.Holds .matchAll r := trivial

theorem holds_bool {I : Reading R} {m s : List Clause} {r : R} :
    I.Holds (.bool m s) r ↔ (∀ c ∈ m, I.Holds c r) ∧ (s = [] ∨ ∃ c ∈ s, I.Holds c r) := by
  have hnil : Clause.rereadList s = [] ↔ s = [] := by cases s <;> simp [Clause.rereadList]
  rw [Holds, Clause.reread, Satisfies, satisfiesAll_reread, satisfiesAny_reread, hnil]

theorem holds_and {I : Reading R} {cs : List Clause} {r : R} :
    I.Holds (.and cs) r ↔ ∀ c ∈ cs, I.Holds c r := by
  rw [Holds, Clause.reread, Satisfies, satisfiesAll_reread]

theorem holds_nested {I : Reading R} {p : String} {q : Clause} {r : R} :
    I.Holds (.nested p q) r ↔ ∃ o, I.nested r p o ∧ I.Holds q o := Iff.rfl

theorem holds_filtered {I : Reading R} {q f : Clause} {r : R} :
    I.Holds (.filtered q f) r ↔ I.Holds q r ∧ I.Holds f r := Iff.rfl

theorem holds_must {I : Reading R} {cs : List Clause} {r : R} :
    I.Holds (.must cs) r ↔ ∀ c ∈ cs, I.Holds c r := by
  simp [Clause.must, holds_bool]

theorem holds_should {I : Reading R} {cs : List Clause} {r : R} (h : cs ≠ []) :
    I.Holds (.should cs) r ↔ ∃ c ∈ cs, I.Holds c r := by
  simp [Clause.should, holds_bool, h]

/-- Flattening a conjunction keeps what it says. -/
theorem holds_all {I : Reading R} {cs : List Clause} {r : R} :
    I.Holds (.all cs) r ↔ ∀ c ∈ cs, I.Holds c r := by
  have hconj : ∀ c : Clause, (∀ d ∈ c.conjuncts, I.Holds d r) ↔ I.Holds c r := by
    intro c
    cases c with
    | and ds => exact holds_and.symm
    | _ => simp [Clause.conjuncts]
  have hflat : (∀ d ∈ cs.flatMap Clause.conjuncts, I.Holds d r) ↔ ∀ c ∈ cs, I.Holds c r := by
    simp only [List.mem_flatMap, forall_exists_index, and_imp]
    constructor
    · intro h c hc
      exact (hconj c).1 fun d hd => h d c hc hd
    · intro h d c hc hd
      exact (hconj c).2 (h c hc) d hd
  rw [← hflat, Clause.all]
  generalize cs.flatMap Clause.conjuncts = ds
  split
  · simp
  · exact holds_and

end Reading

end FacetedSearch
