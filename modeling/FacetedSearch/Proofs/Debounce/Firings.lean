import FacetedSearch.Debounce

/-!
# What a debouncer does, and when

A clock may be moved by any time at once.  What is done on the way, and when, is seen on a clock that moves one unit at
a time; the same jobs are then done, and the debouncer ends up the same.  As nothing depends on what the jobs are, each
of them may carry the number of the step that scheduled it.

* `Debouncer.run_flatMap_ticks`: moving the clock in single units makes no difference.
* `Debouncer.log_ticks`: on such a clock, a job is done exactly at its time.
* `Debouncer.run_map`: what the jobs are makes no difference.
* `firings_concat`: what is done by one step more.
-/

namespace FacetedSearch

namespace DebounceStep

variable {α β : Type}

/-- How far a step moves the clock. -/
def elapsed : DebounceStep α → Nat
  | .advance time => time
  | _ => 0

/-- A step whose time passes in single units. -/
def ticks : DebounceStep α → List (DebounceStep α)
  | .advance time => List.replicate time (.advance 1)
  | s => [s]

/-- A step with another job. -/
def map (f : α → β) : DebounceStep α → DebounceStep β
  | .schedule job work => .schedule (f job) work
  | .advance time => .advance time
  | .cancel => .cancel

@[simp] theorem elapsed_map (f : α → β) (s : DebounceStep α) : (s.map f).elapsed = s.elapsed := by
  cases s <;> rfl

end DebounceStep

namespace Debouncer

variable {α β : Type} {d : Debouncer α}

/-- The jobs that are done by some steps, each with what the clock shows then. -/
def log (d : Debouncer α) : List (DebounceStep α) → List (Nat × α)
  | [] => []
  | s :: steps => ((d.step s).2.map ((d.step s).1.now, ·)).toList ++ (d.step s).1.log steps

/-- The job whose time has come, with this time. -/
def due (d : Debouncer α) : Option (Nat × α) :=
  match d.waiting with
  | some w => if w.1 ≤ d.now then some w else none
  | none => none

/-- Whatever waits is done later than now. -/
def Later (d : Debouncer α) : Prop := ∀ time job, d.waiting = some (time, job) → d.now < time

theorem later_step (d : Debouncer α) (s : DebounceStep α) : (d.step s).1.Later := waiting_step d s

theorem run_cons (d : Debouncer α) (s : DebounceStep α) (steps : List (DebounceStep α)) :
    d.run (s :: steps) = (((d.step s).1.run steps).1, (d.step s).2.toList ++ ((d.step s).1.run steps).2) := rfl

theorem run_append (d : Debouncer α) (steps more : List (DebounceStep α)) :
    d.run (steps ++ more) = (((d.run steps).1.run more).1, (d.run steps).2 ++ ((d.run steps).1.run more).2) := by
  induction steps generalizing d with
  | nil => rfl
  | cons s steps ih => rw [List.cons_append, run_cons, ih, run_cons, List.append_assoc]

theorem log_append (d : Debouncer α) (steps more : List (DebounceStep α)) :
    d.log (steps ++ more) = d.log steps ++ (d.run steps).1.log more := by
  induction steps generalizing d with
  | nil => rfl
  | cons s steps ih => rw [List.cons_append, log, ih, log, run_cons, List.append_assoc]

theorem map_snd_log (d : Debouncer α) (steps : List (DebounceStep α)) :
    (d.log steps).map Prod.snd = (d.run steps).2 := by
  induction steps generalizing d with
  | nil => rfl
  | cons s steps ih =>
    rw [log, run_cons, List.map_append, ih]
    cases (d.step s).2 <;> rfl

theorem later_run (h : d.Later) (steps : List (DebounceStep α)) : (d.run steps).1.Later := by
  induction steps generalizing d with
  | nil => exact h
  | cons s steps ih => exact ih (d.later_step s)

/-! ### One step -/

theorem change_now (d : Debouncer α) (s : DebounceStep α) : (d.change s).now = d.now + s.elapsed := by
  cases s <;> rfl

theorem due_eq_some_iff {w : Nat × α} : d.due = some w ↔ d.waiting = some w ∧ w.1 ≤ d.now := by
  unfold due
  cases d.waiting with
  | none => simp
  | some v =>
    by_cases hdue : v.1 ≤ d.now
    · simp only [hdue, if_true, Option.some.injEq]
      exact ⟨fun h => ⟨h, h ▸ hdue⟩, And.left⟩
    · simp only [hdue, if_false, Option.some.injEq, reduceCtorEq, false_iff, not_and]
      exact fun h => h ▸ hdue

/-- What a step does: the job that is due then is done, and no longer waits. -/
theorem step_eq (d : Debouncer α) (s : DebounceStep α) :
    d.step s = ({ d.change s with waiting := if (d.change s).due.isSome then none else (d.change s).waiting },
      (d.change s).due.map Prod.snd) := by
  unfold step finish due
  generalize d.change s = e
  obtain ⟨delay, now, waiting⟩ := e
  cases waiting with
  | none => rfl
  | some w => by_cases hdue : w.1 ≤ now <;> simp [hdue]

theorem waiting_step_iff {s : DebounceStep α} {w : Nat × α} :
    (d.step s).1.waiting = some w ↔ (d.change s).waiting = some w ∧ (d.change s).now < w.1 := by
  rw [step_eq, due]
  cases (d.change s).waiting with
  | none => simp
  | some v =>
    by_cases hdue : v.1 ≤ (d.change s).now
    · simp only [hdue, if_true, Option.isSome_some, Option.some.injEq, reduceCtorEq, false_iff, not_and]
      rintro rfl
      exact Nat.not_lt.2 hdue
    · simp only [hdue, if_false, Option.isSome_none, Bool.false_eq_true, Option.some.injEq]
      exact ⟨fun h => ⟨h, h ▸ Nat.lt_of_not_le hdue⟩, And.left⟩

/-- While the clock moves by single units, a job is done exactly when its time comes. -/
private theorem run_replicate (h : d.Later) (time : Nat) :
    d.run (List.replicate time (.advance 1)) = ((d.step (.advance time)).1, (d.step (.advance time)).2.toList) ∧
      d.log (List.replicate time (.advance 1)) = (d.change (.advance time)).due.toList := by
  induction time generalizing d with
  | zero =>
    obtain ⟨delay, now, waiting⟩ := d
    cases waiting with
    | none => exact ⟨rfl, rfl⟩
    | some w =>
      have hlater : ¬ w.1 ≤ now := Nat.not_le.2 (h w.1 w.2 rfl)
      simp [run, log, step_eq, change, due, hlater]
  | succ time ih =>
    obtain ⟨hrun, hlog⟩ := ih (d.later_step (.advance 1))
    rw [List.replicate_succ, run_cons, log, hrun, hlog]
    obtain ⟨delay, now, waiting⟩ := d
    have hnow : now + 1 + time = now + (time + 1) := by omega
    cases waiting with
    | none => simp [step_eq, change, due, hnow]
    | some w =>
      obtain ⟨t, job⟩ := w
      have hlater : now < t := h t job rfl
      rcases Nat.lt_or_ge (now + 1) t with hwaits | hfirst
      · -- the first unit brings nothing, and the job still waits behind it
        have hnot : ¬ t ≤ now + 1 := by omega
        by_cases hdue : t ≤ now + (time + 1) <;> simp [step_eq, change, due, hnot, hnow, hdue]
      · -- the job is done in the first unit, and nothing waits any more
        obtain rfl : t = now + 1 := by omega
        simp [step_eq, change, due, hnow]

theorem run_ticks (h : d.Later) (s : DebounceStep α) : d.run s.ticks = ((d.step s).1, (d.step s).2.toList) := by
  cases s with
  | schedule job work => simp [DebounceStep.ticks, run]
  | advance time => exact (run_replicate h time).1
  | cancel => simp [DebounceStep.ticks, run]

theorem log_ticks (h : d.Later) (s : DebounceStep α) : d.log s.ticks = (d.change s).due.toList := by
  cases s with
  | schedule job work =>
    -- a job is done at once if there is neither a delay nor any work
    by_cases hdue : d.now + d.delay + work ≤ d.now
    · have htime : d.now + d.delay + work = d.now := by omega
      simp [DebounceStep.ticks, log, step_eq, change, due, htime]
    · simp [DebounceStep.ticks, log, step_eq, change, due, hdue]
  | advance time => exact (run_replicate h time).2
  | cancel => rfl

theorem run_flatMap_ticks (h : d.Later) (steps : List (DebounceStep α)) :
    d.run (steps.flatMap DebounceStep.ticks) = d.run steps := by
  induction steps generalizing d with
  | nil => rfl
  | cons s steps ih => rw [List.flatMap_cons, run_append, run_ticks h, ih (d.later_step s), run_cons]

/-! ### Other jobs -/

/-- A debouncer with another job. -/
def map (f : α → β) (d : Debouncer α) : Debouncer β := ⟨d.delay, d.now, d.waiting.map fun w => (w.1, f w.2)⟩

theorem step_map (f : α → β) (d : Debouncer α) (s : DebounceStep α) :
    (d.map f).step (s.map f) = ((d.step s).1.map f, (d.step s).2.map f) := by
  have hchange : (d.map f).change (s.map f) = (d.change s).map f := by
    cases s <;> rfl
  rw [step_eq, step_eq, hchange]
  generalize d.change s = e
  obtain ⟨delay, now, waiting⟩ := e
  cases waiting with
  | none => rfl
  | some w =>
    by_cases hdue : w.1 ≤ now <;> simp [map, due, hdue]

theorem run_map (f : α → β) (d : Debouncer α) (steps : List (DebounceStep α)) :
    (d.map f).run (steps.map (·.map f)) = ((d.run steps).1.map f, (d.run steps).2.map f) := by
  induction steps generalizing d with
  | nil => rfl
  | cons s steps ih =>
    rw [List.map_cons, run_cons, step_map, ih, run_cons, List.map_append]
    cases (d.step s).2 <;> rfl

end Debouncer

/-! ### Numbered jobs -/

variable {α : Type}

/-- The steps, each of whose jobs carries the number of its step. -/
def numbered (steps : List (DebounceStep α)) : List (DebounceStep (Nat × α)) :=
  steps.zipIdx.map fun s => s.1.map (s.2, ·)

theorem numbered_concat (steps : List (DebounceStep α)) (s : DebounceStep α) :
    numbered (steps ++ [s]) = numbered steps ++ [s.map (steps.length, ·)] := by
  simp [numbered, List.zipIdx_append]

theorem map_numbered (steps : List (DebounceStep α)) : (numbered steps).map (·.map Prod.snd) = steps := by
  have hmap : ∀ s : DebounceStep α × Nat, (s.1.map (s.2, ·)).map Prod.snd = s.1 := by
    rintro ⟨s, i⟩
    cases s <;> rfl
  rw [numbered, List.map_map]
  simp only [Function.comp_def, hmap]
  exact List.zipIdx_map_fst ..

namespace Debouncer

variable {delay now : Nat}

/-- A debouncer to which nothing has happened. -/
def fresh (α : Type) (delay now : Nat) : Debouncer α := { delay, now }

theorem later_fresh : (fresh α delay now).Later := nofun

/-- The debouncer after some steps, where the job that waits carries the number of its step. -/
def after (delay now : Nat) (steps : List (DebounceStep α)) : Debouncer (Nat × α) :=
  ((fresh (Nat × α) delay now).run (numbered steps)).1

/-- The jobs that are done by some steps, in order: what a clock that moves by single units shows then, the number of
the step that scheduled the job, and the job. -/
def firings (delay now : Nat) (steps : List (DebounceStep α)) : List (Nat × Nat × α) :=
  (fresh (Nat × α) delay now).log ((numbered steps).flatMap DebounceStep.ticks)

theorem after_concat (steps : List (DebounceStep α)) (s : DebounceStep α) :
    after delay now (steps ++ [s]) = ((after delay now steps).step (s.map (steps.length, ·))).1 := by
  rw [after, numbered_concat, run_append]
  rfl

theorem firings_concat (steps : List (DebounceStep α)) (s : DebounceStep α) :
    firings delay now (steps ++ [s]) =
      firings delay now steps ++ ((after delay now steps).change (s.map (steps.length, ·))).due.toList := by
  have hlater : (after delay now steps).Later := later_run later_fresh _
  rw [firings, numbered_concat, List.flatMap_append, log_append, run_flatMap_ticks later_fresh, List.flatMap_singleton,
    ← log_ticks hlater]
  rfl

/-- Without the numbers, the same jobs are done. -/
theorem run_fresh (steps : List (DebounceStep α)) :
    (fresh α delay now).run steps = ((after delay now steps).map Prod.snd, (firings delay now steps).map (·.2.2)) := by
  have hrun := run_map Prod.snd (fresh (Nat × α) delay now) (numbered steps)
  rw [map_numbered, ← run_flatMap_ticks later_fresh, ← map_snd_log, List.map_map] at hrun
  rw [after, ← run_flatMap_ticks later_fresh (numbered steps)]
  exact hrun

end Debouncer

end FacetedSearch
