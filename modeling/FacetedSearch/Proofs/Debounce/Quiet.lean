import FacetedSearch.Proofs.Debounce.Firings
import Mathlib.Algebra.Ring.Nat
import Mathlib.Data.List.Induction

/-!
# Quiet jobs

A job is done if nothing but time passes until its delay and its work are over, and then exactly once and at that time.
Every other job is replaced or cancelled and never done.

* `Debouncer.QuietUntil`: a job that is left alone until its time comes.
* `Debouncer.Last`: the job that was scheduled last and has not been cancelled.
* `Debouncer.waiting_after`: what waits after some steps.
* `Debouncer.mem_firings_iff`: the jobs that are done, and when.
* `Debouncer.pairwise_firings`: two jobs are done at least a delay apart.
* `quiet_jobs_run`: all of it together.
-/

namespace FacetedSearch

namespace Debouncer

variable {α : Type} {delay now : Nat} {steps more : List (DebounceStep α)} {s : DebounceStep α} {i n : Nat} {time : Nat}
  {job : α}

/-- What the clock shows after the first steps. -/
def clock (now : Nat) (steps : List (DebounceStep α)) (n : Nat) : Nat :=
  now + ((steps.take n).map DebounceStep.elapsed).sum

/-- Only time passes between the step with the first number and the one with the second. -/
def Undisturbed (steps : List (DebounceStep α)) (i n : Nat) : Prop :=
  ∀ k, i < k → k < n → ∃ time, steps[k]? = some (.advance time)

/-- A step schedules a job that will be done at some time if it is left alone. -/
def Schedules (delay now : Nat) (steps : List (DebounceStep α)) (time i : Nat) (job : α) : Prop :=
  ∃ work, steps[i]? = some (.schedule job work) ∧ time = clock now steps i + delay + work

/-- A job that is left alone until its time comes. -/
def QuietUntil (delay now : Nat) (steps : List (DebounceStep α)) (time i : Nat) (job : α) : Prop :=
  Schedules delay now steps time i job ∧
    ∃ n, i < n ∧ n ≤ steps.length ∧ Undisturbed steps i n ∧ time ≤ clock now steps n

/-- The job that was scheduled last, if it has not been cancelled. -/
def Last (delay now : Nat) (steps : List (DebounceStep α)) (time i : Nat) (job : α) : Prop :=
  Schedules delay now steps time i job ∧ Undisturbed steps i steps.length

theorem clock_mono (now : Nat) (steps : List (DebounceStep α)) {m n : Nat} (h : m ≤ n) :
    clock now steps m ≤ clock now steps n := by
  obtain ⟨passed, hpassed⟩ := List.take_prefix_take_left (l := steps) h
  rw [clock, clock, ← hpassed, List.map_append, List.sum_append]
  omega

theorem clock_append (h : n ≤ steps.length) : clock now (steps ++ more) n = clock now steps n := by
  rw [clock, clock, List.take_append_of_le_length h]

theorem clock_concat : clock now (steps ++ [s]) (steps.length + 1) = clock now steps steps.length + s.elapsed := by
  rw [clock, clock, List.take_of_length_le (by simp), List.take_length, List.map_append, List.sum_append]
  simp [Nat.add_assoc]

theorem undisturbed_append (h : n ≤ steps.length) : Undisturbed (steps ++ more) i n ↔ Undisturbed steps i n := by
  refine forall_congr' fun k => imp_congr_right fun _ => imp_congr_right fun hk => ?_
  rw [List.getElem?_append_left (by omega)]

theorem undisturbed_concat (h : i < steps.length) :
    Undisturbed (steps ++ [s]) i (steps.length + 1) ↔
      Undisturbed steps i steps.length ∧ ∃ time, s = .advance time := by
  constructor
  · intro hquiet
    refine ⟨(undisturbed_append (Nat.le_refl _)).1 fun k hik hk => hquiet k hik (by omega), ?_⟩
    simpa using hquiet steps.length h (by omega)
  · rintro ⟨hquiet, time, rfl⟩ k hik hk
    rcases Nat.lt_or_ge k steps.length with hlt | hge
    · exact (undisturbed_append (Nat.le_refl _)).2 hquiet k hik hlt
    · obtain rfl : k = steps.length := by omega
      exact ⟨time, by simp⟩

theorem schedules_append (h : i < steps.length) :
    Schedules delay now (steps ++ more) time i job ↔ Schedules delay now steps time i job := by
  rw [Schedules, Schedules, List.getElem?_append_left h, clock_append (Nat.le_of_lt h)]

theorem Schedules.lt_length (h : Schedules delay now steps time i job) : i < steps.length := by
  obtain ⟨_, hget, -⟩ := h
  exact (List.getElem?_eq_some_iff.1 hget).1

/-- A step schedules one job for one time. -/
theorem Schedules.unique {time' : Nat} {job' : α} (h : Schedules delay now steps time i job)
    (h' : Schedules delay now steps time' i job') : time = time' ∧ job = job' := by
  obtain ⟨work, hget, rfl⟩ := h
  obtain ⟨work', hget', rfl⟩ := h'
  rw [hget, Option.some.injEq, DebounceStep.schedule.injEq] at hget'
  obtain ⟨rfl, rfl⟩ := hget'
  exact ⟨rfl, rfl⟩

/-- Behind the first of two jobs, time does not pass undisturbed beyond the second one. -/
theorem Schedules.not_undisturbed {i' time' : Nat} {job' : α} (h : Schedules delay now steps time' i' job')
    (hi : i < i') (hn : i' < n) : ¬ Undisturbed steps i n := by
  intro hquiet
  obtain ⟨_, hget, -⟩ := h
  obtain ⟨_, hadvance⟩ := hquiet i' hi hn
  rw [hget] at hadvance
  cases hadvance

/-- Only one job is the last one. -/
theorem Last.unique {i' time' : Nat} {job' : α} (h : Last delay now steps time i job)
    (h' : Last delay now steps time' i' job') : time = time' ∧ i = i' ∧ job = job' := by
  rcases Nat.lt_trichotomy i i' with hlt | rfl | hlt
  · exact absurd h.2 (h'.1.not_undisturbed hlt h'.1.lt_length)
  · obtain ⟨htime, hjob⟩ := h.1.unique h'.1
    exact ⟨htime, rfl, hjob⟩
  · exact absurd h'.2 (h.1.not_undisturbed hlt h.1.lt_length)

/-! ### One step more -/

theorem QuietUntil.time_le (h : QuietUntil delay now steps time i job) : time ≤ clock now steps steps.length := by
  obtain ⟨-, n, -, hn, -, htime⟩ := h
  exact Nat.le_trans htime (clock_mono now steps hn)

/-- The last job is done as soon as the clock has come to its time. -/
theorem Last.quietUntil_iff (h : Last delay now steps time i job) :
    QuietUntil delay now steps time i job ↔ time ≤ clock now steps steps.length :=
  ⟨QuietUntil.time_le, fun htime => ⟨h.1, steps.length, h.1.lt_length, Nat.le_refl _, h.2, htime⟩⟩

/-- A job that is done within some steps is done so already without the last of them, or it is the last job and due
now. -/
theorem quietUntil_concat : QuietUntil delay now (steps ++ [s]) time i job ↔
    QuietUntil delay now steps time i job ∨
      (Last delay now (steps ++ [s]) time i job ∧ time ≤ clock now (steps ++ [s]) (steps.length + 1)) := by
  constructor
  · rintro ⟨hschedules, n, hi, hn, hquiet, htime⟩
    rw [List.length_append, List.length_singleton] at hn
    rcases Nat.lt_or_ge steps.length n with hlast | hn
    · obtain rfl : n = steps.length + 1 := by omega
      exact Or.inr ⟨⟨hschedules, by simpa using hquiet⟩, htime⟩
    · rw [schedules_append (by omega)] at hschedules
      rw [undisturbed_append hn] at hquiet
      rw [clock_append hn] at htime
      exact Or.inl ⟨hschedules, n, hi, hn, hquiet, htime⟩
  · rintro (⟨hschedules, n, hi, hn, hquiet, htime⟩ | ⟨hlast, htime⟩)
    · refine ⟨(schedules_append hschedules.lt_length).2 hschedules, n, hi, ?_, (undisturbed_append hn).2 hquiet, ?_⟩
      · rw [List.length_append]
        omega
      · rwa [clock_append hn]
    · rw [hlast.quietUntil_iff]
      simpa using htime

/-- A job that has been done was scheduled before the one that is last later on, unless it is this one, and at least a
delay before that is due. -/
theorem QuietUntil.before_last {i' time' : Nat} {job' : α} (h : QuietUntil delay now steps time i job)
    (hlast : Last delay now (steps ++ more) time' i' job') (hwaits : ¬ QuietUntil delay now steps time' i' job') :
    i < i' ∧ time + delay ≤ time' := by
  obtain ⟨hschedules, n, hi, hn, hquiet, htime⟩ := h
  rcases Nat.lt_trichotomy i i' with hlt | rfl | hlt
  · refine ⟨hlt, ?_⟩
    have hle : n ≤ i' := by
      refine Nat.le_of_not_lt fun hbefore => ?_
      exact ((schedules_append (by omega)).1 hlast.1).not_undisturbed hlt hbefore hquiet
    have hclock := clock_mono now (steps ++ more) hle
    rw [clock_append hn] at hclock
    obtain ⟨work, -, rfl⟩ := hlast.1
    omega
  · obtain ⟨rfl, rfl⟩ := hschedules.unique ((schedules_append hschedules.lt_length).1 hlast.1)
    exact absurd ⟨hschedules, n, hi, hn, hquiet, htime⟩ hwaits
  · have hlater : Schedules delay now (steps ++ more) time i job :=
      (schedules_append hschedules.lt_length).2 hschedules
    exact absurd hlast.2 (hlater.not_undisturbed hlt hlater.lt_length)

/-- The last job stays the last one while time passes; a new job takes its place. -/
theorem last_concat : Last delay now (steps ++ [s]) time i job ↔
    (Last delay now steps time i job ∧ ∃ t, s = .advance t) ∨
      (i = steps.length ∧ ∃ work, s = .schedule job work ∧ time = clock now steps steps.length + delay + work) := by
  rw [Last, Last, List.length_append, List.length_singleton]
  rcases Nat.lt_trichotomy i steps.length with hlt | rfl | hgt
  · rw [schedules_append hlt, undisturbed_concat hlt, and_assoc]
    exact (or_iff_left fun h => Nat.ne_of_lt hlt h.1).symm
  · have hnothing : Undisturbed (steps ++ [s]) steps.length (steps.length + 1) := fun k hik hk => by omega
    have hnot : ¬ Schedules delay now steps time steps.length job := fun h => Nat.lt_irrefl _ h.lt_length
    rw [and_iff_left hnothing, Schedules, clock_append (Nat.le_refl _)]
    simp [hnot]
  · have hnot : ∀ xs : List (DebounceStep α), xs.length ≤ i → ¬ Schedules delay now xs time i job :=
      fun xs hxs h => Nat.not_lt.2 hxs h.lt_length
    have hne : i ≠ steps.length := by omega
    simp [hnot steps (by omega), hnot (steps ++ [s]) (by simp; omega), hne]

/-! ### What waits, and what is done -/

theorem after_delay (delay now : Nat) (steps : List (DebounceStep α)) : (after delay now steps).delay = delay := by
  induction steps using List.reverseRecOn with
  | nil => rfl
  | append_singleton steps s ih =>
    rw [after_concat, step_eq]
    cases s <;> exact ih

theorem after_now (delay now : Nat) (steps : List (DebounceStep α)) :
    (after delay now steps).now = clock now steps steps.length := by
  induction steps using List.reverseRecOn with
  | nil => rfl
  | append_singleton steps s ih =>
    rw [after_concat, step_eq, List.length_append, List.length_singleton, clock_concat, ← ih]
    exact (change_now ..).trans (by rw [DebounceStep.elapsed_map])

/-- What waits once a step has been taken, before anything is done: the last job, if it has not been done yet. -/
private theorem waiting_change
    (hwaiting : (after delay now steps).waiting = some (time, i, job) ↔
      Last delay now steps time i job ∧ clock now steps steps.length < time) :
    ((after delay now steps).change (s.map (steps.length, ·))).waiting = some (time, i, job) ↔
      Last delay now (steps ++ [s]) time i job ∧ ¬ QuietUntil delay now steps time i job := by
  rw [last_concat]
  cases s with
  | schedule job' work =>
    have htaken : ((after delay now steps).change ((DebounceStep.schedule job' work).map (steps.length, ·))).waiting =
        some (clock now steps steps.length + delay + work, steps.length, job') := by
      show some ((after delay now steps).now + (after delay now steps).delay + work, steps.length, job') = _
      rw [after_now, after_delay]
    rw [htaken, Option.some.injEq, Prod.mk.injEq, Prod.mk.injEq]
    constructor
    · rintro ⟨rfl, rfl, rfl⟩
      exact ⟨Or.inr ⟨rfl, work, rfl, rfl⟩, fun h => Nat.lt_irrefl _ h.1.lt_length⟩
    · rintro ⟨⟨-, t, hadvance⟩ | ⟨rfl, work', heq, rfl⟩, -⟩
      · cases hadvance
      · cases heq
        exact ⟨rfl, rfl, rfl⟩
  | advance t =>
    have hsame : ((after delay now steps).change ((DebounceStep.advance t).map (steps.length, ·))).waiting =
        (after delay now steps).waiting := rfl
    rw [hsame, hwaiting]
    simp only [DebounceStep.advance.injEq, exists_eq', and_true, reduceCtorEq, false_and, exists_false, and_false,
      or_false]
    refine and_congr_right fun hlast => ?_
    rw [hlast.quietUntil_iff, Nat.not_le]
  | cancel => simp [change, DebounceStep.map]

theorem waiting_after : (after delay now steps).waiting = some (time, i, job) ↔
    Last delay now steps time i job ∧ clock now steps steps.length < time := by
  induction steps using List.reverseRecOn generalizing time i job with
  | nil =>
    refine iff_of_false nofun fun h => ?_
    exact Nat.not_lt_zero _ h.1.1.lt_length
  | append_singleton steps s ih =>
    rw [after_concat, waiting_step_iff, waiting_change ih, change_now, DebounceStep.elapsed_map, after_now,
      List.length_append, List.length_singleton, clock_concat]
    refine ⟨fun h => ⟨h.1.1, h.2⟩, fun h => ⟨⟨h.1, fun hquiet => ?_⟩, h.2⟩⟩
    have hle := hquiet.time_le
    omega

theorem due_concat : ((after delay now steps).change (s.map (steps.length, ·))).due = some (time, i, job) ↔
    (Last delay now (steps ++ [s]) time i job ∧ ¬ QuietUntil delay now steps time i job) ∧
      time ≤ clock now (steps ++ [s]) (steps.length + 1) := by
  rw [due_eq_some_iff, waiting_change waiting_after, change_now, DebounceStep.elapsed_map, after_now, clock_concat]

/-- The jobs that are done are those that are left alone until their time comes. -/
theorem mem_firings_iff : (time, i, job) ∈ firings delay now steps ↔ QuietUntil delay now steps time i job := by
  induction steps using List.reverseRecOn with
  | nil =>
    refine iff_of_false nofun fun h => ?_
    exact Nat.not_lt_zero _ h.1.lt_length
  | append_singleton steps s ih =>
    rw [firings_concat, List.mem_append, ih, Option.mem_toList, due_concat, quietUntil_concat]
    refine ⟨Or.imp_right fun h => ⟨h.1.1, h.2⟩, fun h => ?_⟩
    by_cases hdone : QuietUntil delay now steps time i job
    · exact Or.inl hdone
    · exact h.imp_right fun h => ⟨⟨h.1, hdone⟩, h.2⟩

/-- The jobs are done in the order in which they were scheduled, at least a delay apart. -/
theorem pairwise_firings (delay now : Nat) (steps : List (DebounceStep α)) :
    (firings delay now steps).Pairwise fun x y => x.2.1 < y.2.1 ∧ x.1 + delay ≤ y.1 := by
  induction steps using List.reverseRecOn with
  | nil => exact .nil
  | append_singleton steps s ih =>
    rw [firings_concat, List.pairwise_append]
    refine ⟨ih, ?_, ?_⟩
    · cases ((after delay now steps).change (s.map (steps.length, ·))).due with
      | none => exact .nil
      | some w => exact List.pairwise_singleton ..
    · rintro ⟨t, i, job⟩ hx ⟨t', i', job'⟩ hy
      obtain ⟨⟨hlast, hwaits⟩, -⟩ := due_concat.1 (Option.mem_toList.1 hy)
      exact (mem_firings_iff.1 hx).before_last hlast hwaits

theorem isPending_after_iff : (after delay now steps).isPending = true ↔
    ∃ time i job, Last delay now steps time i job ∧ (time, i, job) ∉ firings delay now steps := by
  rw [isPending, Option.isSome_iff_exists]
  constructor
  · rintro ⟨⟨time, i, job⟩, hwaiting⟩
    obtain ⟨hlast, hlater⟩ := waiting_after.1 hwaiting
    refine ⟨time, i, job, hlast, fun hmem => ?_⟩
    exact Nat.not_le.2 hlater (mem_firings_iff.1 hmem).time_le
  · rintro ⟨time, i, job, hlast, hmem⟩
    rw [mem_firings_iff, hlast.quietUntil_iff, Nat.not_le] at hmem
    exact ⟨_, waiting_after.2 ⟨hlast, hmem⟩⟩

/-- A job that is scheduled already and done later is the last one. -/
theorem last_of_mem_firings (hmem : (time, i, job) ∈ firings delay now (steps ++ more)) (hi : i < steps.length)
    (hlater : (time, i, job) ∉ firings delay now steps) : Last delay now steps time i job := by
  rw [mem_firings_iff] at hmem hlater
  obtain ⟨hschedules, n, hin, hn, hquiet, htime⟩ := hmem
  rw [schedules_append hi] at hschedules
  refine ⟨hschedules, (undisturbed_append (Nat.le_refl _)).1 fun k hik hk => hquiet k hik ?_⟩
  refine Nat.lt_of_not_le fun hle => hlater ⟨hschedules, n, hin, by omega, ?_, ?_⟩
  · exact (undisturbed_append (by omega)).1 hquiet
  · rwa [clock_append (by omega)] at htime

/-- Of all the jobs that any steps schedule for a debouncer, those are done that are left alone until their time comes,
each of them once and at this time, and two of them at least a delay apart.  The debouncer is pending as long as the job
scheduled last is neither done nor cancelled, and of the jobs scheduled so far no other one is done later on. -/
theorem quiet_jobs_run (delay now : Nat) (steps : List (DebounceStep α)) :
    ((fresh α delay now).run steps).2 = (firings delay now steps).map (·.2.2) ∧
      (∀ time i job, (time, i, job) ∈ firings delay now steps ↔ QuietUntil delay now steps time i job) ∧
      (firings delay now steps).Pairwise (fun x y => x.2.1 < y.2.1 ∧ x.1 + delay ≤ y.1) ∧
      (((fresh α delay now).run steps).1.isPending = true ↔
        ∃ time i job, Last delay now steps time i job ∧ (time, i, job) ∉ firings delay now steps) ∧
      ∀ more more' : List (DebounceStep α),
        ∀ x ∈ firings delay now (steps ++ more), ∀ y ∈ firings delay now (steps ++ more'),
          x.2.1 < steps.length → y.2.1 < steps.length →
            x ∉ firings delay now steps → y ∉ firings delay now steps → x = y := by
  have hpending : ((fresh α delay now).run steps).1.isPending = (after delay now steps).isPending := by
    rw [run_fresh, isPending, isPending, map, Option.isSome_map]
  refine ⟨congrArg Prod.snd (run_fresh steps), fun _ _ _ => mem_firings_iff, pairwise_firings delay now steps, ?_, ?_⟩
  · rw [hpending, isPending_after_iff]
  · rintro more more' ⟨time, i, job⟩ hx ⟨time', i', job'⟩ hy hi hi' hlater hlater'
    obtain ⟨rfl, rfl, rfl⟩ := (last_of_mem_firings hx hi hlater).unique (last_of_mem_firings hy hi' hlater')
    rfl

/-- Of a burst the last job is done, when the clock has come to its time; the next one waits until it is cancelled. -/
example :
    let burst : List (DebounceStep Char) := [.schedule 'a' 0, .advance 1, .schedule 'b' 0, .advance 4]
    firings 3 0 burst = [(4, 2, 'b')] ∧ firings 3 0 (burst ++ [.schedule 'c' 0, .advance 2, .cancel, .advance 9]) =
      [(4, 2, 'b')] := by
  decide

end Debouncer

end FacetedSearch
