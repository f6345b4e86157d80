import TapeLang.Machine.Trace
import TapeLang.Proofs.Machine.Lifetime

/-!
# Watching does not interfere

A traced run takes a snapshot before every step and may be cut off after a number of steps.  It makes
the very steps that the stepper makes when nobody watches.

* `allowance`: the number of steps that a limit leaves room for.
* `Snapshot.Pictures`: what a snapshot has to say of a stepper.
* `Stepper.Watched`: a traced run told by the steps of the stepper.  Every traced run is
  (`Stepper.OnTrack.trace_watched`), and it returns as soon as there is a reason to
  (`Stepper.OnTrack.exists_trace`).
* `Stepper.OnTrack.trace_prefix`: a tighter limit shows the beginning of what a wider one shows.
* `Traced.Faithful`: all that a traced run has in common with the untraced one.
* **`Stepper.trace_undisturbed`**: traced runs are faithful.
-/

namespace TapeLang

/-! ## Limits -/

/-- The number of steps that a limit leaves room for.  A limit below zero leaves none. -/
def allowance : Option Int → ℕ∞
  | none => ⊤
  | some limit => (limit.toNat : ℕ∞)

lemma limitReached_iff (limit : Option Int) (steps : Nat) :
    limitReached limit steps = true ↔ allowance limit ≤ steps := by
  cases limit with
  | none => simp [limitReached, allowance]
  | some limit =>
    simp only [limitReached, Option.any_some, decide_eq_true_eq, allowance, Nat.cast_le]
    omega

lemma limitReached_eq_false_iff (limit : Option Int) (steps : Nat) :
    limitReached limit steps = false ↔ (steps : ℕ∞) < allowance limit := by
  rw [← Bool.not_eq_true, limitReached_iff, not_le]

/-! ## Snapshots -/

/-- The snapshot shows the stepper: the steps made, the place, the instruction there, the pointer, and
the cells around it. -/
structure Snapshot.Pictures (frame : Snapshot) (radius : Int) (stepper : Stepper) : Prop where
  steps_eq : frame.steps = stepper.steps
  path_eq : stepper.path = some frame.path
  instr_eq : stepper.current? = .ok (some frame.instr)
  pointer_eq : frame.pointer = stepper.machine.pointer
  windowStart_eq : frame.windowStart = stepper.machine.pointer - radius
  window_eq : frame.window =
    stepper.machine.memory.window (stepper.machine.pointer - radius)
      (stepper.machine.pointer + radius + 1)

/-- There is one such snapshot at most. -/
lemma Snapshot.Pictures.unique {frame other : Snapshot} {radius : Int} {stepper : Stepper}
    (h : frame.Pictures radius stepper) (h' : other.Pictures radius stepper) : frame = other := by
  have hpath := h'.path_eq
  have hinstr := h'.instr_eq
  rw [h.path_eq, Option.some.injEq] at hpath
  rw [h.instr_eq, Except.ok.injEq, Option.some.injEq] at hinstr
  cases frame
  cases other
  simp only [Snapshot.mk.injEq]
  exact ⟨h.steps_eq.trans h'.steps_eq.symm, hpath, hinstr, h.pointer_eq.trans h'.pointer_eq.symm,
    h.windowStart_eq.trans h'.windowStart_eq.symm, h.window_eq.trans h'.window_eq.symm⟩

namespace Stepper

variable {program : Program} {stepper later last : Stepper} {limit : Option Int} {radius : Int}
  {bound count : Nat} {traced : Traced}

lemma OnTrack.exists_snapshot (h : OnTrack program stepper) (hpath : stepper.path ≠ none)
    (radius : Int) :
    ∃ frame : Snapshot, stepper.snapshot radius = .ok (some frame) ∧ frame.Pictures radius stepper := by
  obtain ⟨path, hpath⟩ := Option.ne_none_iff_exists'.mp hpath
  obtain ⟨frame, outer, hlocated⟩ := h.located hpath
  have hinstr := hlocated.instrAt
  rw [← h.program_eq] at hinstr
  have hcurrent : stepper.current? = .ok (some frame.current) := by
    simp only [current?, hpath, hinstr]
    rfl
  simp only [snapshot, hpath, hinstr]
  exact ⟨_, rfl, rfl, hpath, hcurrent, rfl, rfl, rfl⟩

/-! ## What a traced run does -/

/-- **One round of a traced run.**  It is over, because the limit is reached, the program has ended or
the step fails; or it goes on behind the step. -/
lemma OnTrack.trace_cases (h : OnTrack program stepper)
    (htrace : stepper.trace limit radius (bound + 1) = some traced) :
    (limitReached limit stepper.steps = true ∧ traced = ⟨[], .ok (), stepper⟩) ∨
    (limitReached limit stepper.steps = false ∧ stepper.path = none ∧
      traced = ⟨[], .ok (), stepper⟩) ∨
    (limitReached limit stepper.steps = false ∧ ∃ frame : Snapshot, frame.Pictures radius stepper ∧
      ∃ e last, stepper.step = (.error e, last) ∧ traced = ⟨[.frame frame], .error e, last⟩) ∨
    (limitReached limit stepper.steps = false ∧ ∃ frame : Snapshot, frame.Pictures radius stepper ∧
      ∃ report next more, stepper.path ≠ none ∧ stepper.step = (.ok report, next) ∧
        next.trace limit radius bound = some more ∧
        traced = { more with events := .frame frame :: (report.events ++ more.events) }) := by
  rw [trace] at htrace
  cases hlimit : limitReached limit stepper.steps with
  | true =>
    simp only [hlimit, if_true, Option.some.injEq] at htrace
    exact .inl ⟨rfl, htrace.symm⟩
  | false =>
    simp only [hlimit, Bool.false_eq_true, if_false] at htrace
    by_cases hpath : stepper.path = none
    · simp only [snapshot, hpath, Option.some.injEq] at htrace
      exact .inr (.inl ⟨rfl, hpath, htrace.symm⟩)
    · obtain ⟨frame, hframe, hpictures⟩ := h.exists_snapshot hpath radius
      simp only [hframe] at htrace
      rcases hstep : stepper.step with ⟨e | report, next⟩
      · simp only [hstep, Option.some.injEq] at htrace
        exact .inr (.inr (.inl ⟨rfl, frame, hpictures, e, next, rfl, htrace.symm⟩))
      · rcases hmore : next.trace limit radius bound with _ | more
        · simp [hstep, hmore] at htrace
        · simp only [hstep, hmore, Option.some.injEq] at htrace
          exact .inr (.inr (.inr ⟨rfl, frame, hpictures, report, next, more, hpath, rfl, hmore,
            htrace.symm⟩))

lemma OnTrack.step (h : OnTrack program stepper) {report : StepReport}
    (hstep : stepper.step = (.ok report, later)) : OnTrack program later := by
  have hcall : (stepper.call .step).2 = later := congrArg Prod.snd hstep
  exact hcall ▸ h.call .step

end Stepper

lemma Traced.frames_frame (frame : Snapshot) (report : StepReport) (traced : Traced) :
    Traced.frames { traced with events := .frame frame :: (report.events ++ traced.events) } =
      frame :: traced.frames := by
  cases report <;> rfl

namespace Stepper

variable {program : Program} {stepper later last : Stepper} {limit : Option Int} {radius : Int}
  {bound count : Nat} {traced : Traced}

/-- A traced run made `count` steps, up to `stuck`, and had room for them.  There it ended, because the
limit was reached, the program had ended or the next step failed.  Its snapshots show the stepper before
each of the steps, a failing one included. -/
structure Watched (limit : Option Int) (radius : Int) (stepper : Stepper) (traced : Traced)
    (count : Nat) (stuck : Stepper) : Prop where
  makes : stepper.Makes count stuck
  roomy : ∀ j < count, limitReached limit (stepper.steps + j) = false
  ended : (traced.result = .ok () ∧ traced.stepper = stuck ∧ traced.frames.length = count ∧
      (limitReached limit stuck.steps = true ∨ stuck.path = none)) ∨
    ∃ e, traced.result = .error e ∧ stuck.step = (.error e, traced.stepper) ∧
      traced.frames.length = count + 1 ∧ limitReached limit stuck.steps = false
  frames : ∀ (j : Nat) (frame : Snapshot), traced.frames[j]? = some frame →
    ∃ shown, stepper.Makes j shown ∧ frame.Pictures radius shown

/-- **A traced run is made of the steps of the stepper.** -/
lemma OnTrack.trace_watched (h : OnTrack program stepper)
    (htrace : stepper.trace limit radius bound = some traced) :
    ∃ count stuck, Watched limit radius stepper traced count stuck := by
  induction bound generalizing stepper traced with
  | zero => simp [trace] at htrace
  | succ bound ih =>
    obtain ⟨hreached, rfl⟩ | ⟨hroom, hended, rfl⟩ | ⟨hroom, frame, hpictures, e, last, hstep, rfl⟩ |
      ⟨hroom, frame, hpictures, report, next, more, hpath, hstep, hmore, rfl⟩ := h.trace_cases htrace
    · exact ⟨0, stepper, makes_zero stepper, by simp, .inl ⟨rfl, rfl, rfl, .inl hreached⟩,
        by simp [Traced.frames]⟩
    · exact ⟨0, stepper, makes_zero stepper, by simp, .inl ⟨rfl, rfl, rfl, .inr hended⟩,
        by simp [Traced.frames]⟩
    · refine ⟨0, stepper, makes_zero stepper, by simp, .inr ⟨e, rfl, hstep, rfl, hroom⟩, ?_⟩
      intro j shown hshown
      have hframes : (Traced.mk [.frame frame] (.error e) last).frames = [frame] := rfl
      rw [hframes, List.getElem?_singleton] at hshown
      split_ifs at hshown with hj
      simp only [Option.some.injEq] at hshown
      subst hj hshown
      exact ⟨stepper, makes_zero stepper, hpictures⟩
    · -- the rest of the run, with one step and one snapshot in front
      obtain ⟨count, stuck, hwatched⟩ := ih (h.step hstep) hmore
      have hsteps := steps_of_step hpath hstep
      have hfirst : ∀ {j : Nat} {shown : Stepper}, next.Makes j shown → stepper.Makes (j + 1) shown :=
        fun hmakes => makes_succ_iff.mpr ⟨report, next, hpath, hstep, hmakes⟩
      have hframes := Traced.frames_frame frame report more
      refine ⟨count + 1, stuck, hfirst hwatched.makes, ?_, ?_, ?_⟩
      · intro j hj
        cases j with
        | zero => exact hroom
        | succ j =>
          have := hwatched.roomy j (by omega)
          rwa [hsteps, Nat.add_assoc, Nat.add_comm 1 j] at this
      · rw [hframes, List.length_cons]
        obtain ⟨hok, hstuck, hlength, hwhy⟩ | ⟨e, hfailed, hstuck, hlength, hwhy⟩ := hwatched.ended
        · exact .inl ⟨hok, hstuck, by omega, hwhy⟩
        · exact .inr ⟨e, hfailed, hstuck, by omega, hwhy⟩
      · intro j shown hshown
        rw [hframes] at hshown
        cases j with
        | zero =>
          simp only [List.getElem?_cons_zero, Option.some.injEq] at hshown
          subst hshown
          exact ⟨stepper, makes_zero stepper, hpictures⟩
        | succ j =>
          rw [List.getElem?_cons_succ] at hshown
          obtain ⟨reached, hreached, hpictures'⟩ := hwatched.frames j shown hshown
          exact ⟨reached, hfirst hreached, hpictures'⟩

/-- A traced run returns as soon as there is a reason to. -/
lemma OnTrack.exists_trace (h : OnTrack program stepper) {stuck : Stepper}
    (hmakes : stepper.Makes count stuck)
    (hreason : limitReached limit stuck.steps = true ∨ ∃ result last, stuck.Stops result last) :
    ∃ traced, stepper.trace limit radius (count + 1) = some traced := by
  induction count generalizing stepper with
  | zero =>
    obtain rfl := (makes_zero stepper).unique hmakes
    rw [trace]
    split_ifs with hlimit
    · exact ⟨_, rfl⟩
    · by_cases hpath : stepper.path = none
      · simp only [snapshot, hpath]
        exact ⟨_, rfl⟩
      · obtain ⟨frame, hframe, -⟩ := h.exists_snapshot hpath radius
        obtain hreached | ⟨result, last, ⟨hended, -⟩ | ⟨e, hfails, -⟩⟩ := hreason
        · exact absurd hreached hlimit
        · exact absurd hended hpath
        · simp only [hframe, hfails]
          exact ⟨_, rfl⟩
  | succ count ih =>
    obtain ⟨report, next, hpath, hstep, hnext⟩ := makes_succ_iff.mp hmakes
    obtain ⟨more, hmore⟩ := ih (h.step hstep) hnext
    obtain ⟨frame, hframe, -⟩ := h.exists_snapshot hpath radius
    rw [trace]
    split_ifs with hlimit
    · exact ⟨_, rfl⟩
    · simp only [hframe, hstep, hmore]
      exact ⟨_, rfl⟩

/-- A limit that leaves room for the whole run is no limit. -/
lemma trace_of_room (h : ((stepper.steps + bound : ℕ) : ℕ∞) ≤ allowance limit) :
    stepper.trace limit radius bound = stepper.trace none radius bound := by
  induction bound generalizing stepper with
  | zero => rfl
  | succ bound ih =>
    have hroom : limitReached limit stepper.steps = false := by
      rw [limitReached_eq_false_iff]
      refine lt_of_lt_of_le ?_ h
      exact_mod_cast Nat.lt_add_of_pos_right (Nat.succ_pos bound)
    have hnone : limitReached none stepper.steps = false := rfl
    simp only [trace, hroom, hnone]
    rcases hframe : stepper.snapshot radius with e | _ | frame
    · rfl
    · rfl
    · have hpath : stepper.path ≠ none := by
        intro hended
        simp [snapshot, hended] at hframe
      rcases hstep : stepper.step with ⟨e | report, next⟩
      · rfl
      · have hnext : next.steps + bound = stepper.steps + (bound + 1) := by
          rw [steps_of_step hpath hstep]
          omega
        rw [← hnext] at h
        simp only [ih h]

end Stepper

/-! ## Output -/

/-- The bytes that a machine has written. -/
def Machine.written (machine : Machine) : List UInt8 :=
  machine.sink.written.toList

lemma Sink.written_write (sink : Sink) (byte : UInt8) :
    sink.written.toList <+: (sink.write byte).2.written.toList := by
  unfold Sink.write
  split
  · simp
  · exact List.prefix_refl _
  · exact List.prefix_refl _
  · exact List.prefix_refl _

/-- What is written stays written, also when an instruction fails. -/
lemma Machine.written_perform (machine : Machine) (instr : Instr) :
    machine.written <+: (machine.perform instr).2.written := by
  obtain ⟨pointer, memory, feed, sink⟩ := machine
  cases instr with
  | loop body =>
    simp only [perform, performLoop]
    split <;> exact List.prefix_refl _
  | act action =>
    cases action with
    | move n => exact List.prefix_refl _
    | nop => exact List.prefix_refl _
    | add n =>
      simp only [perform, performAction]
      split <;> exact List.prefix_refl _
    | output =>
      simp only [perform, performAction, performOutput]
      split
      · exact List.prefix_refl _
      · next cell after hget =>
        have hwrite := sink.written_write cell
        split
        · next cause full hfull =>
          rw [hfull] at hwrite
          exact hwrite
        · next taken htaken =>
          rw [htaken] at hwrite
          exact hwrite
    | input =>
      simp only [perform, performAction, performInput]
      split
      · exact List.prefix_refl _
      · split
        · exact List.prefix_refl _
        · exact List.prefix_refl _
        · split <;> exact List.prefix_refl _

namespace Stepper

variable {program : Program} {stepper later last : Stepper} {limit wider : Option Int} {radius : Int}
  {bound bound' count : Nat} {traced traced' : Traced}

lemma written_step (stepper : Stepper) :
    stepper.machine.written <+: stepper.step.2.machine.written := by
  obtain hsame | ⟨instr, hperform⟩ := machine_of_step (Prod.eta stepper.step).symm
  · rw [hsame]
  · rw [hperform]
    exact stepper.machine.written_perform instr

lemma OnTrack.written_trace (h : OnTrack program stepper)
    (htrace : stepper.trace limit radius bound = some traced) :
    stepper.machine.written <+: traced.stepper.machine.written := by
  induction bound generalizing stepper traced with
  | zero => simp [trace] at htrace
  | succ bound ih =>
    have hwritten := stepper.written_step
    obtain ⟨-, rfl⟩ | ⟨-, -, rfl⟩ | ⟨-, frame, -, e, last, hstep, rfl⟩ |
      ⟨-, frame, -, report, next, more, -, hstep, hmore, rfl⟩ := h.trace_cases htrace
    · exact List.prefix_refl _
    · exact List.prefix_refl _
    · rw [hstep] at hwritten
      exact hwritten
    · rw [hstep] at hwritten
      have hrest := ih (h.step hstep) hmore
      exact hwritten.trans hrest

/-- **A tighter limit shows the beginning** of what a wider one shows, in snapshots and in output. -/
lemma OnTrack.trace_prefix (h : OnTrack program stepper) (hle : allowance limit ≤ allowance wider)
    (htrace : stepper.trace limit radius bound = some traced)
    (htrace' : stepper.trace wider radius bound' = some traced') :
    traced.frames <+: traced'.frames ∧
      traced.stepper.machine.written <+: traced'.stepper.machine.written := by
  induction bound generalizing stepper traced bound' traced' with
  | zero => simp [trace] at htrace
  | succ bound ih =>
    cases bound' with
    | zero => simp [trace] at htrace'
    | succ bound' =>
      -- a wider limit is not reached before a tighter one, so the two runs go together
      have hroom : limitReached limit stepper.steps = false →
          limitReached wider stepper.steps = false := by
        simp only [limitReached_eq_false_iff]
        exact fun hlt => lt_of_lt_of_le hlt hle
      have hcases := h.trace_cases htrace'
      obtain ⟨-, rfl⟩ | ⟨-, hended, rfl⟩ | ⟨hlimit, frame, hframe, e, last, hstep, rfl⟩ |
        ⟨hlimit, frame, hframe, report, next, more, -, hstep, hmore, rfl⟩ := h.trace_cases htrace
      · exact ⟨List.nil_prefix, h.written_trace htrace'⟩
      · exact ⟨List.nil_prefix, h.written_trace htrace'⟩
      · -- both sides see the same step fail
        obtain ⟨hreached, -⟩ | ⟨-, hended, -⟩ | ⟨-, frame', hframe', e', last', hstep', rfl⟩ |
          ⟨-, frame', -, report, next, more, -, hstep', -⟩ := hcases
        · simp [hroom hlimit] at hreached
        · simp [hframe.path_eq] at hended
        · obtain rfl := hframe.unique hframe'
          rw [hstep, Prod.mk.injEq, Except.error.injEq] at hstep'
          obtain ⟨rfl, rfl⟩ := hstep'
          exact ⟨List.prefix_refl _, List.prefix_refl _⟩
        · simp [hstep] at hstep'
      · obtain ⟨hreached, -⟩ | ⟨-, hended, -⟩ | ⟨-, frame', -, e', last', hstep', -⟩ |
          ⟨-, frame', hframe', report', next', more', -, hstep', hmore', rfl⟩ := hcases
        · simp [hroom hlimit] at hreached
        · simp [hframe.path_eq] at hended
        · simp [hstep] at hstep'
        · obtain rfl := hframe.unique hframe'
          rw [hstep, Prod.mk.injEq, Except.ok.injEq] at hstep'
          obtain ⟨rfl, rfl⟩ := hstep'
          obtain ⟨hframes, hwritten⟩ := ih (h.step hstep) hmore hmore'
          rw [Traced.frames_frame, Traced.frames_frame]
          exact ⟨List.cons_prefix_cons.mpr ⟨rfl, hframes⟩, hwritten⟩

/-! ## Traced and untraced runs -/

/-- The stepper makes `count` steps, and the next one fails. -/
def FailsAfter (stepper : Stepper) (count : Nat) (e : StepError) : Prop :=
  ∃ stuck last, stepper.Makes count stuck ∧ stuck.step = (.error e, last)

/-- The stepper makes `count` steps, and then the program has ended. -/
def FinishesAfter (stepper : Stepper) (count : Nat) : Prop :=
  ∃ last, stepper.Makes count last ∧ last.path = none

lemma FailsAfter.lifetime_eq {e : StepError} (h : stepper.FailsAfter count e) :
    stepper.lifetime = count := by
  obtain ⟨stuck, last, hmakes, hstep⟩ := h
  have hstops : stuck.Stops (.error e) last := .inr ⟨e, hstep, rfl⟩
  exact hmakes.lifetime_eq hstops

lemma FinishesAfter.lifetime_eq (h : stepper.FinishesAfter count) : stepper.lifetime = count := by
  obtain ⟨last, hmakes, hended⟩ := h
  have hstops : last.Stops (.ok ()) last := .inl ⟨hended, rfl, rfl⟩
  exact hmakes.lifetime_eq hstops

end Stepper

/-- What a traced run of a program on a machine has in common with the untraced one. -/
structure Traced.Faithful (traced : Traced) (program : Program) (machine : Machine)
    (limit : Option Int) (radius : Int) : Prop where
  /-- It makes as many steps as the limit and the untraced run allow. -/
  steps_eq : (traced.stepper.steps : ℕ∞) =
    min (allowance limit) (Stepper.init program machine).lifetime
  /-- There is a snapshot for each step, and one for a step that failed. -/
  frames_length : traced.frames.length =
    traced.stepper.steps + match traced.result with
      | .ok () => 0
      | .error _ => 1
  /-- The snapshots show the untraced stepper after no step, after one, and so on. -/
  frames : ∀ (j : Nat) (frame : Snapshot), traced.frames[j]? = some frame →
    frame.steps = j ∧ ∃ shown, (Stepper.init program machine).Makes j shown ∧
      frame.Pictures radius shown
  /-- It fails if and only if the untraced stepper does so before the limit is reached. -/
  fails_iff : ∀ e, traced.result = .error e ↔
    ∃ count, (Stepper.init program machine).FailsAfter count e ∧ (count : ℕ∞) < allowance limit
  /-- It fails as running the program does, with the same machine: pointer, tape, input, output. -/
  fails_as_run : ∀ e, traced.result = .error e → ∃ fault, e = .fault fault ∧
    Machine.Halts program machine (.error fault, traced.stepper.machine)
  /-- If it does not fail, it leaves the stepper that the untraced steps lead to. -/
  leaves : traced.result = .ok () →
    (Stepper.init program machine).Makes traced.stepper.steps traced.stepper
  /-- That stepper is not running any more exactly when the program has ended within the limit. -/
  running_iff : traced.result = .ok () → (traced.stepper.running = false ↔
    ∃ count, (Stepper.init program machine).FinishesAfter count ∧ (count : ℕ∞) ≤ allowance limit)
  /-- Going on from it ends as running the program does, or not at all. -/
  resumes : traced.result = .ok () → ∀ result after,
    (∃ bound last, Stepper.run bound traced.stepper = some (result, last) ∧ last.machine = after) ↔
      ∃ outcome, Machine.Halts program machine (outcome, after) ∧
        result = outcome.mapError StepError.fault

namespace Stepper

variable {program : Program} {machine : Machine} {limit wider : Option Int} {radius : Int}
  {bound count : Nat} {traced : Traced} {stuck : Stepper}

/-- The steps of a traced run, from the start of a program. -/
lemma Watched.count_eq (h : Watched limit radius (init program machine) traced count stuck) :
    (count : ℕ∞) = min (allowance limit) (init program machine).lifetime := by
  have hsteps := h.makes.steps_eq
  have hlife : (count : ℕ∞) ≤ (init program machine).lifetime := le_lifetime_iff.mpr ⟨stuck, h.makes⟩
  have hroom : (count : ℕ∞) ≤ allowance limit := by
    cases count with
    | zero => exact zero_le
    | succ count =>
      have hlast := h.roomy count (Nat.lt_succ_self count)
      rw [limitReached_eq_false_iff] at hlast
      have hstart : (init program machine).steps + count = count := Nat.zero_add count
      rw [hstart] at hlast
      exact_mod_cast Order.add_one_le_of_lt hlast
  refine le_antisymm (le_min hroom hlife) ?_
  obtain ⟨-, -, -, hreached | hended⟩ | ⟨e, -, hstep, -, -⟩ := h.ended
  · rw [limitReached_iff, hsteps] at hreached
    exact (min_le_left _ _).trans hreached
  · have hfinishes : (init program machine).FinishesAfter count := ⟨stuck, h.makes, hended⟩
    exact (min_le_right _ _).trans (le_of_eq hfinishes.lifetime_eq)
  · have hfails : (init program machine).FailsAfter count e := ⟨stuck, _, h.makes, hstep⟩
    exact (min_le_right _ _).trans (le_of_eq hfails.lifetime_eq)

/-- A step that fails is not counted, and fails by a fault of the machine. -/
lemma OnTrack.fault_of_step {stepper last : Stepper} {e : StepError} (h : OnTrack program stepper)
    (hstep : stepper.step = (.error e, last)) :
    last.steps = stepper.steps ∧ ∃ fault, e = .fault fault := by
  obtain ⟨-, hidle⟩ | ⟨path, frame, outer, fault, after, -, -, -, hfails⟩ |
    ⟨report, after, place, -, -, hok, -⟩ := h.step_cases
  · simp [hidle] at hstep
  · rw [hfails, Prod.mk.injEq, Except.error.injEq] at hstep
    obtain ⟨rfl, rfl⟩ := hstep
    exact ⟨rfl, fault, rfl⟩
  · simp [hok] at hstep

/-- A traced run that did not fail leaves the stepper where it stopped making steps. -/
lemma Watched.stepper_eq {stepper : Stepper}
    (h : Watched limit radius stepper traced count stuck) (hok : traced.result = .ok ()) :
    traced.stepper = stuck := by
  obtain ⟨-, heq, -, -⟩ | ⟨e, hfailed, -⟩ := h.ended
  · exact heq
  · simp [hok] at hfailed

/-- A traced run that failed did so at the step that it could not make. -/
lemma Watched.step_eq {stepper : Stepper} {e : StepError}
    (h : Watched limit radius stepper traced count stuck) (hfailed : traced.result = .error e) :
    stuck.step = (.error e, traced.stepper) ∧ limitReached limit stuck.steps = false := by
  obtain ⟨hok, -⟩ | ⟨e', hfailed', hstep, -, hroom⟩ := h.ended
  · simp [hok] at hfailed
  · obtain rfl : e' = e := Except.error.inj (hfailed'.symm.trans hfailed)
    exact ⟨hstep, hroom⟩

lemma Watched.fails_iff (h : Watched limit radius (init program machine) traced count stuck)
    (e : StepError) :
    traced.result = .error e ↔
      ∃ count, (init program machine).FailsAfter count e ∧ (count : ℕ∞) < allowance limit := by
  have hstuck := h.makes.steps_eq
  constructor
  · intro hfailed
    obtain ⟨hstep, hroom⟩ := h.step_eq hfailed
    rw [limitReached_eq_false_iff, hstuck] at hroom
    exact ⟨count, ⟨stuck, _, h.makes, hstep⟩, hroom⟩
  · rintro ⟨count', hfails, hroom⟩
    -- the untraced stepper is stuck where the traced one stopped
    have hcount := h.count_eq
    rw [hfails.lifetime_eq, min_eq_right hroom.le, Nat.cast_inj] at hcount
    subst hcount
    obtain ⟨stuck', last, hmakes, hstep⟩ := hfails
    obtain rfl := h.makes.unique hmakes
    obtain ⟨-, -, -, hreached | hended⟩ | ⟨e', hfailed, hstep', -, -⟩ := h.ended
    · rw [limitReached_iff, hstuck] at hreached
      exact absurd hreached (not_le.mpr hroom)
    · simp [step_of_ended hended] at hstep
    · rw [hstep, Prod.mk.injEq, Except.error.injEq] at hstep'
      rw [hfailed, hstep'.1]

lemma Watched.fails_as_run (h : Watched limit radius (init program machine) traced count stuck)
    {e : StepError} (hfailed : traced.result = .error e) :
    ∃ fault, e = .fault fault ∧
      Machine.Halts program machine (.error fault, traced.stepper.machine) := by
  obtain ⟨hstep, -⟩ := h.step_eq hfailed
  have htrack := h.makes.onTrack (onTrack_init program machine)
  obtain ⟨-, fault, rfl⟩ := htrack.fault_of_step hstep
  have hstops : stuck.Stops ((.error fault : Except Fault Unit).mapError StepError.fault)
      traced.stepper := .inr ⟨_, hstep, rfl⟩
  exact ⟨fault, rfl, (halts_iff_stops program machine _ (.error fault)).mpr
    ⟨count, stuck, _, h.makes, hstops, rfl⟩⟩

/-- Without a limit, a traced run ends as running the program does. -/
lemma Watched.halts (h : Watched none radius (init program machine) traced count stuck) :
    ∃ outcome, Machine.Halts program machine (outcome, traced.stepper.machine) ∧
      traced.result = outcome.mapError StepError.fault := by
  obtain ⟨hok, hleft, -, hreached | hended⟩ | ⟨e, hfailed, -⟩ := h.ended
  · simp [limitReached] at hreached
  · have hstops : stuck.Stops ((.ok () : Except Fault Unit).mapError StepError.fault) stuck :=
      .inl ⟨hended, rfl, rfl⟩
    refine ⟨.ok (), ?_, hok⟩
    rw [hleft]
    exact (halts_iff_stops program machine _ (.ok ())).mpr ⟨count, stuck, _, h.makes, hstops, rfl⟩
  · obtain ⟨fault, rfl, hhalts⟩ := h.fails_as_run hfailed
    exact ⟨.error fault, hhalts, hfailed⟩

/-- Without a limit, tracing is running. -/
lemma exists_trace_none_iff (program : Program) (machine after : Machine) (radius : Int)
    (result : Except StepError Unit) :
    (∃ bound traced, (init program machine).trace none radius bound = some traced ∧
      traced.result = result ∧ traced.stepper.machine = after) ↔
      ∃ outcome, Machine.Halts program machine (outcome, after) ∧
        result = outcome.mapError StepError.fault := by
  have htrack := onTrack_init program machine
  constructor
  · rintro ⟨bound, traced, htrace, rfl, rfl⟩
    obtain ⟨count, stuck, hwatched⟩ := htrack.trace_watched htrace
    exact hwatched.halts
  · rintro ⟨outcome, hhalts, rfl⟩
    obtain ⟨count, stuck, last, hmakes, hstops, -⟩ :=
      (halts_iff_stops program machine after outcome).mp hhalts
    obtain ⟨traced, htrace⟩ := htrack.exists_trace hmakes (.inr ⟨_, last, hstops⟩)
    refine ⟨count + 1, traced, htrace, ?_⟩
    obtain ⟨count', stuck', hwatched⟩ := htrack.trace_watched htrace
    obtain ⟨outcome', hhalts', hresult⟩ := hwatched.halts
    obtain ⟨rfl, rfl⟩ := Prod.mk.inj (hhalts'.unique hhalts)
    exact ⟨hresult, rfl⟩

lemma Watched.running_iff (h : Watched limit radius (init program machine) traced count stuck) :
    stuck.running = false ↔
      ∃ count, (init program machine).FinishesAfter count ∧ (count : ℕ∞) ≤ allowance limit := by
  have hcount := h.count_eq
  constructor
  · intro hrunning
    have hended : stuck.path = none := by simpa [running] using hrunning
    exact ⟨count, ⟨stuck, h.makes, hended⟩, hcount ▸ min_le_left _ _⟩
  · rintro ⟨count', hfinishes, hroom⟩
    rw [hfinishes.lifetime_eq, min_eq_right hroom, Nat.cast_inj] at hcount
    subst hcount
    obtain ⟨last, hmakes, hended⟩ := hfinishes
    obtain rfl := h.makes.unique hmakes
    simp [running, hended]

lemma Watched.faithful (h : Watched limit radius (init program machine) traced count stuck) :
    traced.Faithful program machine limit radius := by
  have hstuck := h.makes.steps_eq
  have hsteps : traced.stepper.steps = count := by
    obtain ⟨-, heq, -, -⟩ | ⟨e, -, hstep, -, -⟩ := h.ended
    · rw [heq, hstuck]
    · have htrack := h.makes.onTrack (onTrack_init program machine)
      rw [(htrack.fault_of_step hstep).1, hstuck]
  refine ⟨?_, ?_, ?_, h.fails_iff, fun e => h.fails_as_run, ?_, ?_, ?_⟩
  · rw [hsteps, h.count_eq]
  · obtain ⟨hok, -, hlength, -⟩ | ⟨e, hfailed, -, hlength, -⟩ := h.ended
    · simp only [hok, hlength, hsteps, Nat.add_zero]
    · simp only [hfailed, hlength, hsteps]
  · intro j frame hframe
    obtain ⟨shown, hmakes, hpictures⟩ := h.frames j frame hframe
    exact ⟨hpictures.steps_eq.trans hmakes.steps_eq, shown, hmakes, hpictures⟩
  · intro hok
    rw [h.stepper_eq hok, hstuck]
    exact h.makes
  · intro hok
    rw [h.stepper_eq hok]
    exact h.running_iff
  · intro hok result after
    rw [h.stepper_eq hok]
    exact h.makes.exists_run_iff_halts result after

/-- There is an end to a traced run if there is a limit, or the untraced one has an end. -/
lemma exists_trace_init_iff (program : Program) (machine : Machine) (limit : Option Int)
    (radius : Int) :
    (∃ bound traced, (init program machine).trace limit radius bound = some traced) ↔
      min (allowance limit) (init program machine).lifetime < ⊤ := by
  have htrack := onTrack_init program machine
  constructor
  · rintro ⟨bound, traced, htrace⟩
    obtain ⟨count, stuck, hwatched⟩ := htrack.trace_watched htrace
    rw [← hwatched.count_eq]
    exact ENat.natCast_lt_top count
  · intro hlt
    obtain ⟨count, hcount⟩ := ENat.ne_top_iff_exists.mp hlt.ne
    obtain ⟨stuck, hmakes⟩ := le_lifetime_iff.mp (hcount.le.trans (min_le_right _ _))
    have hstuck := hmakes.steps_eq
    refine ⟨count + 1, htrack.exists_trace hmakes ?_⟩
    obtain hlimit | hlife := min_choice (allowance limit) (init program machine).lifetime
    · rw [hlimit] at hcount
      rw [limitReached_iff, hstuck]
      exact .inl hcount.ge
    · rw [hlife] at hcount
      obtain ⟨stuck', result, last, hmakes', hstops⟩ := exists_stops_of_lifetime_eq hcount.symm
      obtain rfl := hmakes.unique hmakes'
      exact .inr ⟨result, last, hstops⟩

/-- **Watching does not interfere.**  A traced run has an end whenever there is a reason for it, it is
faithful to the untraced run, and a tighter limit shows the beginning of it. -/
theorem trace_undisturbed (program : Program) (machine : Machine) (limit : Option Int) (radius : Int) :
    ((∃ bound traced, (init program machine).trace limit radius bound = some traced) ↔
      min (allowance limit) (init program machine).lifetime < ⊤) ∧
    (∀ bound traced, (init program machine).trace limit radius bound = some traced →
      traced.Faithful program machine limit radius) ∧
    ∀ tighter bound bound' (traced traced' : Traced), allowance tighter ≤ allowance limit →
      (init program machine).trace tighter radius bound = some traced →
      (init program machine).trace limit radius bound' = some traced' →
      traced.frames <+: traced'.frames ∧
        traced.stepper.machine.written <+: traced'.stepper.machine.written := by
  have htrack := onTrack_init program machine
  refine ⟨exists_trace_init_iff program machine limit radius, ?_, ?_⟩
  · intro bound traced htrace
    obtain ⟨count, stuck, hwatched⟩ := htrack.trace_watched htrace
    exact hwatched.faithful
  · intro tighter bound bound' traced traced' hle htrace htrace'
    exact htrack.trace_prefix hle htrace htrace'

end Stepper

end TapeLang
