/-!
# Readings

A reading gives a result or a fault.  One that takes several steps gives a result when all of them do, and else the
fault of the first step that has one.

* `exists_of_bind_eq_ok`: the steps of a reading that gave a result.
* `FirstFault`: a reading fails with the first of some faults, and only with that.
-/

namespace FacetedSearch

/-! ### Results -/

/-- A step of a reading that gave a result gave one itself, and so did what follows it. -/
theorem exists_of_bind_eq_ok {ε α β : Type} {x : Except ε α} {f : α → Except ε β} {b : β} (h : x >>= f = .ok b) :
    ∃ a, x = .ok a ∧ f a = .ok b := by
  cases x with
  | error e => cases h
  | ok a => exact ⟨a, rfl, h⟩

/-- A result that is there is the result. -/
theorem eq_ok_of_toOption {ε α : Type} {e : Except ε α} {a : α} (h : e.toOption = some a) : e = .ok a := by
  cases e with
  | ok b => exact congrArg _ (Option.some.inj h)
  | error fault => cases h

/-! ### The first fault -/

/-- A reading fails with the first of some faults, and succeeds when there are none. -/
def FirstFault {ε α : Type} (faults : List ε) (r : Except ε α) : Prop :=
  ∀ e, r = .error e ↔ faults.head? = some e

namespace FirstFault

variable {ε α β : Type} {faults : List ε} {r : Except ε α}

theorem ok (a : α) : FirstFault ([] : List ε) (.ok a) := fun _ => ⟨nofun, nofun⟩

theorem error (e : ε) (faults : List ε) : FirstFault (e :: faults) (.error e : Except ε α) := fun _ =>
  ⟨fun h => congrArg some (Except.error.inj h), fun h => congrArg Except.error (Option.some.inj h)⟩

theorem eq_nil (h : FirstFault faults r) {a : α} (ha : r = .ok a) : faults = [] := by
  cases faults with
  | nil => rfl
  | cons e faults =>
    rw [(h e).2 rfl] at ha
    cases ha

theorem eq_cons (h : FirstFault faults r) {e : ε} (he : r = .error e) : ∃ later, faults = e :: later :=
  List.head?_eq_some_iff.1 ((h e).1 he)

theorem exists_error_iff (h : FirstFault faults r) : (∃ e, r = .error e) ↔ faults ≠ [] := by
  constructor
  · rintro ⟨e, he⟩ rfl
    exact nomatch (h e).1 he
  · intro hne
    obtain ⟨e, rest, rfl⟩ := List.exists_cons_of_ne_nil hne
    exact ⟨e, (h e).2 rfl⟩

theorem exists_ok_iff (h : FirstFault faults r) : (∃ a, r = .ok a) ↔ faults = [] := by
  cases r with
  | ok a => exact iff_of_true ⟨a, rfl⟩ (h.eq_nil rfl)
  | error e =>
    obtain ⟨later, rfl⟩ := h.eq_cons rfl
    exact iff_of_false nofun (List.cons_ne_nil _ _)

/-- What is read next has its faults behind those of what is read first. -/
theorem bind (h : FirstFault faults r) {later : List ε} {f : α → Except ε β}
    (hf : ∀ a, r = .ok a → FirstFault later (f a)) : FirstFault (faults ++ later) (r >>= f) := by
  cases r with
  | error e =>
    obtain ⟨rest, rfl⟩ := h.eq_cons rfl
    exact error e _
  | ok a =>
    rw [h.eq_nil rfl]
    exact hf a rfl

theorem map (h : FirstFault faults r) (f : α → β) : FirstFault faults (r >>= fun a => pure (f a)) := by
  have hmap := h.bind fun a _ => ok (f a)
  rwa [List.append_nil] at hmap

end FirstFault

end FacetedSearch
