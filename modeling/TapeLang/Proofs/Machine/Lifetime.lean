import Mathlib.Data.ENat.Lattice
import Mathlib.Order.CompletePartialOrder
import TapeLang.Proofs.Machine.Session

/-!
# How many steps a stepper makes

A step at the end of the program does nothing, and a step that fails is not counted.  What is left are
the steps that a stepper *makes*; their number may be without bound.

* `Stepper.Makes`: so many steps lead to such a stepper.  Steps can be put together and taken apart
  (`Stepper.Makes.trans`, `Stepper.makes_succ_iff`).
* `Stepper.Stops`: no further step can be made, for one of two reasons.
* `Stepper.exists_run_iff`, `Stepper.halts_iff_stops`: stepping to the end, and running, is making steps
  until the stepper stops.  It does not matter where on the way one starts to step
  (`Stepper.Makes.exists_run_iff_halts`).
* `Stepper.lifetime`: the number of steps in all, infinite if the stepper never stops.
-/

namespace TapeLang.Stepper

variable {stepper mid later last : Stepper} {count : Nat}

/-! ## Making steps -/

/-- The stepper performs `count` instructions without a failure, and is then `later`. -/
def Makes (stepper : Stepper) (count : Nat) (later : Stepper) : Prop :=
  stepper.stepMany count = (.ok (), later) ∧ later.steps = stepper.steps + count

lemma steps_of_step {report : StepReport} (hpath : stepper.path ≠ none)
    (h : stepper.step = (.ok report, later)) : later.steps = stepper.steps + 1 := by
  rcases stepper with ⟨program, machine, _ | path, steps⟩
  · exact absurd rfl hpath
  · simp only [step] at h
    split at h
    · simp at h
    · split at h
      · simp at h
      · cases h
        rfl
      · cases h
        rfl
      · split at h
        · simp at h
        · cases h
          rfl

/-- A step does to the machine what one instruction does, or nothing. -/
lemma machine_of_step {result : Except StepError StepReport} (h : stepper.step = (result, later)) :
    later.machine = stepper.machine ∨
      ∃ instr, later.machine = (stepper.machine.perform instr).2 := by
  rcases stepper with ⟨program, machine, _ | path, steps⟩
  · cases h
    exact .inl rfl
  · simp only [step] at h
    split at h
    · cases h
      exact .inl rfl
    · next instr _ =>
      refine .inr ⟨instr, ?_⟩
      split at h
      · next hperform => cases h; rw [hperform]
      · next hperform => cases h; rw [hperform]
      · next hperform => cases h; rw [hperform]
      · next hperform => split at h <;> cases h <;> rw [hperform]

lemma stepMany_of_ended (h : stepper.path = none) (count : Nat) :
    stepper.stepMany count = (.ok (), stepper) := by
  induction count with
  | zero => rfl
  | succ count ih => simp only [stepMany, step_of_ended h, ih]

lemma makes_zero (stepper : Stepper) : stepper.Makes 0 stepper := ⟨rfl, rfl⟩

lemma Makes.steps_eq {program : Program} {machine : Machine}
    (h : (init program machine).Makes count later) : later.steps = count :=
  h.2.trans (Nat.zero_add count)

/-- The first of several steps. -/
lemma makes_succ_iff :
    stepper.Makes (count + 1) later ↔
      ∃ report mid, stepper.path ≠ none ∧ stepper.step = (.ok report, mid) ∧
        mid.Makes count later := by
  constructor
  · rintro ⟨hmany, hsteps⟩
    have hpath : stepper.path ≠ none := by
      intro hended
      rw [stepMany_of_ended hended] at hmany
      obtain rfl := (Prod.mk.inj hmany).2
      omega
    rcases hstep : stepper.step with ⟨e | report, mid⟩
    · simp [stepMany, hstep] at hmany
    · simp only [stepMany, hstep] at hmany
      have := steps_of_step hpath hstep
      exact ⟨report, mid, hpath, rfl, hmany, by omega⟩
  · rintro ⟨report, mid, hpath, hstep, hmany, hsteps⟩
    have := steps_of_step hpath hstep
    exact ⟨by simp only [stepMany, hstep, hmany], by omega⟩

lemma Makes.unique {other : Stepper} (h : stepper.Makes count later) (h' : stepper.Makes count other) :
    later = other := by
  have hmany := h.1
  rw [h'.1] at hmany
  exact (Prod.mk.inj hmany).2.symm

lemma Makes.trans {more : Nat} (h : stepper.Makes count mid) (h' : mid.Makes more later) :
    stepper.Makes (count + more) later := by
  induction count generalizing stepper with
  | zero =>
    obtain rfl := h.unique (makes_zero stepper)
    rwa [Nat.zero_add]
  | succ count ih =>
    obtain ⟨report, next, hpath, hstep, hnext⟩ := makes_succ_iff.mp h
    rw [Nat.add_right_comm]
    exact makes_succ_iff.mpr ⟨report, next, hpath, hstep, ih hnext⟩

/-- On the way to the last of several steps, all the earlier ones are made. -/
lemma Makes.split {more : Nat} (h : stepper.Makes (count + more) later) :
    ∃ mid, stepper.Makes count mid ∧ mid.Makes more later := by
  induction count generalizing stepper with
  | zero =>
    rw [Nat.zero_add] at h
    exact ⟨stepper, makes_zero stepper, h⟩
  | succ count ih =>
    rw [Nat.add_right_comm] at h
    obtain ⟨report, next, hpath, hstep, hnext⟩ := makes_succ_iff.mp h
    obtain ⟨mid, hmid, hmore⟩ := ih hnext
    exact ⟨mid, makes_succ_iff.mpr ⟨report, next, hpath, hstep, hmid⟩, hmore⟩

lemma Makes.onTrack {program : Program} (h : OnTrack program stepper)
    (hmakes : stepper.Makes count later) : OnTrack program later := by
  induction count generalizing stepper with
  | zero => exact (makes_zero stepper).unique hmakes ▸ h
  | succ count ih =>
    obtain ⟨report, next, -, hstep, hnext⟩ := makes_succ_iff.mp hmakes
    have hcall : (stepper.call .step).2 = next := congrArg Prod.snd hstep
    exact ih (hcall ▸ h.call .step) hnext

/-! ## Stopping -/

/-- No further step can be made: the program has ended, or the next step fails. -/
def Stops (stepper : Stepper) (result : Except StepError Unit) (last : Stepper) : Prop :=
  (stepper.path = none ∧ result = .ok () ∧ last = stepper) ∨
    ∃ e, stepper.step = (.error e, last) ∧ result = .error e

lemma Stops.not_makes {result : Except StepError Unit} (h : stepper.Stops result last) :
    ¬ stepper.Makes (count + 1) later := by
  intro hmakes
  obtain ⟨report, mid, hpath, hstep, -⟩ := makes_succ_iff.mp hmakes
  obtain ⟨hended, -⟩ | ⟨e, hfails, -⟩ := h
  · exact hpath hended
  · simp [hstep] at hfails

/-- A stepper stops or makes another step. -/
lemma stops_or_makes (stepper : Stepper) :
    (∃ result last, stepper.Stops result last) ∨ ∃ later, stepper.Makes 1 later := by
  cases hpath : stepper.path with
  | none => exact .inl ⟨.ok (), stepper, .inl ⟨hpath, rfl, rfl⟩⟩
  | some path =>
    rcases hstep : stepper.step with ⟨e | report, after⟩
    · exact .inl ⟨.error e, after, .inr ⟨e, hstep, rfl⟩⟩
    · exact .inr ⟨after, makes_succ_iff.mpr ⟨report, after, by simp [hpath], hstep, makes_zero after⟩⟩

lemma run_of_stops {result : Except StepError Unit} (h : stepper.Stops result last) :
    run 1 stepper = some (result, last) := by
  obtain ⟨hended, rfl, rfl⟩ | ⟨e, hfails, rfl⟩ := h
  · simp [run, running, hended]
  · have hrunning : stepper.running = true := by
      cases hpath : stepper.path with
      | none => simp [step_of_ended hpath] at hfails
      | some path => simp [running, hpath]
    simp only [run, hrunning, if_true, hfails]

lemma run_of_makes (h : stepper.Makes count later) (bound : Nat) :
    run (count + bound) stepper = run bound later := by
  induction count generalizing stepper with
  | zero =>
    obtain rfl := (makes_zero stepper).unique h
    rw [Nat.zero_add]
  | succ count ih =>
    obtain ⟨report, mid, hpath, hstep, hmid⟩ := makes_succ_iff.mp h
    have hrunning : stepper.running = true := Option.isSome_iff_ne_none.mpr hpath
    rw [Nat.add_right_comm, run, if_pos hrunning, hstep]
    exact ih hmid

/-- **Stepping to the end** is making steps until the stepper stops. -/
lemma exists_run_iff (stepper last : Stepper) (result : Except StepError Unit) :
    (∃ bound, run bound stepper = some (result, last)) ↔
      ∃ count stuck, stepper.Makes count stuck ∧ stuck.Stops result last := by
  constructor
  · rintro ⟨bound, h⟩
    induction bound generalizing stepper with
    | zero =>
      cases hpath : stepper.path with
      | none =>
        simp [run, running, hpath] at h
        exact ⟨0, stepper, makes_zero stepper, .inl ⟨hpath, h.1.symm, h.2.symm⟩⟩
      | some path => simp [run, running, hpath] at h
    | succ bound ih =>
      cases hpath : stepper.path with
      | none =>
        simp [run, running, hpath] at h
        exact ⟨0, stepper, makes_zero stepper, .inl ⟨hpath, h.1.symm, h.2.symm⟩⟩
      | some path =>
        have hrunning : stepper.running = true := by simp [running, hpath]
        rcases hstep : stepper.step with ⟨e | report, after⟩
        · simp only [run, hrunning, if_true, hstep, Option.some.injEq, Prod.mk.injEq] at h
          obtain ⟨rfl, rfl⟩ := h
          exact ⟨0, stepper, makes_zero stepper, .inr ⟨e, hstep, rfl⟩⟩
        · simp only [run, hrunning, if_true, hstep] at h
          obtain ⟨count, stuck, hmakes, hstops⟩ := ih after h
          exact ⟨count + 1, stuck,
            makes_succ_iff.mpr ⟨report, after, by simp [hpath], hstep, hmakes⟩, hstops⟩
  · rintro ⟨count, stuck, hmakes, hstops⟩
    exact ⟨count + 1, by rw [run_of_makes hmakes, run_of_stops hstops]⟩

/-- Some steps on the way, stepping to the end is the same as before them. -/
lemma Makes.exists_run_iff {result : Except StepError Unit} (h : stepper.Makes count mid) :
    (∃ bound, run bound mid = some (result, last)) ↔
      ∃ bound, run bound stepper = some (result, last) := by
  rw [Stepper.exists_run_iff, Stepper.exists_run_iff]
  constructor
  · rintro ⟨more, stuck, hmakes, hstops⟩
    exact ⟨count + more, stuck, h.trans hmakes, hstops⟩
  · rintro ⟨total, stuck, hmakes, hstops⟩
    -- the end cannot come before a step that is made
    have hle : count ≤ total := by
      by_contra hlt
      obtain ⟨extra, rfl⟩ : ∃ extra, count = total + (extra + 1) := ⟨count - total - 1, by omega⟩
      obtain ⟨reached, hreached, hmore⟩ := h.split
      obtain rfl := hmakes.unique hreached
      exact hstops.not_makes hmore
    obtain ⟨more, rfl⟩ : ∃ more, total = count + more := ⟨total - count, by omega⟩
    obtain ⟨reached, hreached, hmore⟩ := hmakes.split
    obtain rfl := h.unique hreached
    exact ⟨more, stuck, hmore, hstops⟩

/-- From the start of a program, stepping to the end is running it. -/
lemma exists_run_init_iff (program : Program) (machine after : Machine)
    (result : Except StepError Unit) :
    (∃ bound last, run bound (init program machine) = some (result, last) ∧ last.machine = after) ↔
      ∃ outcome, Machine.Halts program machine (outcome, after) ∧
        result = outcome.mapError StepError.fault := by
  constructor
  · rintro ⟨bound, last, hrun, rfl⟩
    obtain ⟨⟨outcome, reached⟩, hhalts, hsame⟩ :=
      (run_init_iff program machine (result, last.machine)).mp ⟨bound, by rw [hrun]; rfl⟩
    obtain ⟨rfl, rfl⟩ := Prod.mk.inj hsame
    exact ⟨outcome, hhalts, rfl⟩
  · rintro ⟨outcome, hhalts, rfl⟩
    obtain ⟨bound, hrun⟩ := (run_init_iff program machine _).mpr ⟨_, hhalts, rfl⟩
    obtain ⟨⟨ended, last⟩, hlast, hending⟩ := Option.map_eq_some_iff.mp hrun
    obtain ⟨hended, hmachine⟩ := Prod.mk.inj hending
    exact ⟨bound, last, hended ▸ hlast, hmachine⟩

/-- Some steps after the start, stepping to the end is still running the program. -/
lemma Makes.exists_run_iff_halts {program : Program} {machine : Machine}
    (h : (init program machine).Makes count mid) (result : Except StepError Unit) (after : Machine) :
    (∃ bound last, run bound mid = some (result, last) ∧ last.machine = after) ↔
      ∃ outcome, Machine.Halts program machine (outcome, after) ∧
        result = outcome.mapError StepError.fault := by
  rw [← exists_run_init_iff]
  constructor
  · rintro ⟨bound, last, hrun, hmachine⟩
    obtain ⟨total, htotal⟩ := h.exists_run_iff.mp ⟨bound, hrun⟩
    exact ⟨total, last, htotal, hmachine⟩
  · rintro ⟨total, last, htotal, hmachine⟩
    obtain ⟨bound, hrun⟩ := h.exists_run_iff.mpr ⟨total, htotal⟩
    exact ⟨bound, last, hrun, hmachine⟩

lemma mapError_fault_injective {result outcome : Except Fault Unit}
    (h : result.mapError StepError.fault = outcome.mapError StepError.fault) : result = outcome := by
  cases result <;> cases outcome <;> simp_all [Except.mapError]

/-- Running a program is making steps until the stepper stops. -/
lemma halts_iff_stops (program : Program) (machine after : Machine) (result : Except Fault Unit) :
    Machine.Halts program machine (result, after) ↔
      ∃ count stuck last, (init program machine).Makes count stuck ∧
        stuck.Stops (result.mapError StepError.fault) last ∧ last.machine = after := by
  constructor
  · intro hhalts
    obtain ⟨bound, last, hrun, hmachine⟩ :=
      (exists_run_init_iff program machine after _).mpr ⟨result, hhalts, rfl⟩
    obtain ⟨count, stuck, hmakes, hstops⟩ := (exists_run_iff _ _ _).mp ⟨bound, hrun⟩
    exact ⟨count, stuck, last, hmakes, hstops, hmachine⟩
  · rintro ⟨count, stuck, last, hmakes, hstops, hmachine⟩
    obtain ⟨bound, hrun⟩ := (exists_run_iff _ _ _).mpr ⟨count, stuck, hmakes, hstops⟩
    obtain ⟨outcome, hhalts, hsame⟩ :=
      (exists_run_init_iff program machine after _).mp ⟨bound, last, hrun, hmachine⟩
    rw [mapError_fault_injective hsame]
    exact hhalts

/-! ## The number of steps in all -/

/-- The number of steps that a stepper makes before it stops. -/
noncomputable def lifetime (stepper : Stepper) : ℕ∞ :=
  ⨆ (count : ℕ) (_ : ∃ later, stepper.Makes count later), (count : ℕ∞)

lemma le_lifetime_iff : (count : ℕ∞) ≤ stepper.lifetime ↔ ∃ later, stepper.Makes count later := by
  constructor
  · intro hle
    cases count with
    | zero => exact ⟨stepper, makes_zero stepper⟩
    | succ count =>
      have hlt : (count : ℕ∞) < stepper.lifetime := by
        refine lt_of_lt_of_le ?_ hle
        exact_mod_cast Nat.lt_succ_self count
      simp only [lifetime, lt_iSup_iff, Nat.cast_lt] at hlt
      obtain ⟨more, ⟨later, hmakes⟩, hmore⟩ := hlt
      obtain ⟨rest, rfl⟩ : ∃ rest, more = count + 1 + rest := ⟨more - (count + 1), by omega⟩
      obtain ⟨mid, hmid, -⟩ := hmakes.split
      exact ⟨mid, hmid⟩
  · intro hmakes
    exact le_iSup₂_of_le count hmakes le_rfl

lemma Makes.lifetime_eq {stuck : Stepper} {result : Except StepError Unit}
    (h : stepper.Makes count stuck) (hstops : stuck.Stops result last) :
    stepper.lifetime = count := by
  refine le_antisymm ?_ (le_lifetime_iff.mpr ⟨stuck, h⟩)
  by_contra hlt
  have hmore : ((count + 1 : ℕ) : ℕ∞) ≤ stepper.lifetime := by
    rw [Nat.cast_add, Nat.cast_one]
    exact Order.add_one_le_of_lt (not_le.mp hlt)
  obtain ⟨later, hlater⟩ := le_lifetime_iff.mp hmore
  obtain ⟨mid, hmid, hone⟩ := hlater.split
  obtain rfl := h.unique hmid
  exact hstops.not_makes hone

lemma exists_stops_of_lifetime_eq (h : stepper.lifetime = count) :
    ∃ stuck result last, stepper.Makes count stuck ∧ stuck.Stops result last := by
  obtain ⟨stuck, hmakes⟩ := le_lifetime_iff.mp (le_of_eq h.symm)
  obtain ⟨result, last, hstops⟩ | ⟨later, hlater⟩ := stuck.stops_or_makes
  · exact ⟨stuck, result, last, hmakes, hstops⟩
  · have hmore := le_lifetime_iff.mpr ⟨later, hmakes.trans hlater⟩
    rw [h] at hmore
    have : count + 1 ≤ count := by exact_mod_cast hmore
    omega

end TapeLang.Stepper
