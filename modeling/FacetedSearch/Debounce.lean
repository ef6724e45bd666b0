/-!
# Debouncing

A job runs once no other job has been scheduled for a while. Only one job waits at a time: a new one takes its place,
and cancelling drops it, also while it is being worked on. Time is counted in milliseconds on a clock that only
`advance` moves.

* `Debouncer.step`: one step, and the job that is done after it;
* `Debouncer.waiting_step`: whatever still waits after a step is done later than now.
-/

namespace FacetedSearch

/-- A delay, a clock, and the job that waits, with the time at which it will be done. -/
structure Debouncer (α : Type) where
  delay : Nat
  now : Nat := 0
  waiting : Option (Nat × α) := none

/-- What can happen to a debouncer. -/
inductive DebounceStep (α : Type)
  | schedule (job : α) (work : Nat)
  | advance (time : Nat)
  | cancel

namespace Debouncer

variable {α : Type}

/-- Whether a job waits or is being worked on. -/
def isPending (d : Debouncer α) : Bool := d.waiting.isSome

/-- Finishes the waiting job if its time has come. -/
def finish (d : Debouncer α) : Debouncer α × Option α :=
  match d.waiting with
  | some (time, job) => if time ≤ d.now then ({ d with waiting := none }, some job) else (d, none)
  | none => (d, none)

/-- What a step changes before any job is finished. -/
def change (d : Debouncer α) : DebounceStep α → Debouncer α
  | .schedule job work => { d with waiting := some (d.now + d.delay + work, job) }
  | .advance time => { d with now := d.now + time }
  | .cancel => { d with waiting := none }

/-- One step, and the job that is done after it. -/
def step (d : Debouncer α) (s : DebounceStep α) : Debouncer α × Option α := (d.change s).finish

/-- Steps one after the other, with the jobs that are done, in order. -/
def run (d : Debouncer α) : List (DebounceStep α) → Debouncer α × List α
  | [] => (d, [])
  | s :: ss =>
    let (d, done) := d.step s
    let (d, later) := d.run ss
    (d, done.toList ++ later)

theorem waiting_step (d : Debouncer α) (s : DebounceStep α) (time : Nat) (job : α)
    (h : (d.step s).1.waiting = some (time, job)) : (d.step s).1.now < time := by
  unfold step finish at *
  cases hw : (d.change s).waiting with
  | none => simp [hw] at h
  | some w =>
    obtain ⟨t, j⟩ := w
    by_cases hn : t ≤ (d.change s).now
    · simp [hw, hn] at h
    · simp only [hw, hn, if_false, Option.some.injEq, Prod.mk.injEq] at h ⊢
      omega

end Debouncer

end FacetedSearch
