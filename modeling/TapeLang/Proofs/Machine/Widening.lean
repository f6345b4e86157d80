import TapeLang.Proofs.Machine.Lockstep

/-!
# A larger tape

A program that fits on a tape does the same on a larger one, although the two tapes are stored in
different buffers that grow at different times.  Nothing of that shows: a policy has a say only where an
access is refused, and what the smaller tape allows, the larger one allows too.

* `Policy.Within`: the order of policies, written `≤`.
* `View.perform_of_le`: an instruction that is not refused does the same under a larger policy.
* `Machine.Alike`: machines that look the same.
* **`Machine.larger_tape_same_run`**: whole runs, and how far a run gets that does not fit.
-/

namespace TapeLang

/-! ## The order of policies -/

/-- Tapes of fixed size are ordered by their size; any of them lies within a tape without a right end,
and that within one without any end. -/
def Policy.Within : Policy → Policy → Prop
  | .fixed size, .fixed larger => size ≤ larger
  | .fixed _, .rightUnbounded => True
  | .rightUnbounded, .rightUnbounded => True
  | _, .bothUnbounded => True
  | _, _ => False

instance : LE Policy := ⟨Policy.Within⟩

lemma Policy.includes_of_le {policy larger : Policy} {address : Int} (hle : policy ≤ larger)
    (hin : ¬ policy.Excludes address) : ¬ larger.Excludes address := by
  have hwithin : policy.Within larger := hle
  cases policy <;> cases larger <;>
    simp only [Policy.Within, Policy.Excludes, not_false_eq_true] at hwithin hin ⊢ <;> omega

/-! ## One instruction -/

namespace View

variable {policy larger : Policy} {view : View} {instr : Instr}

/-- Where an address is excluded, only a move and what is no instruction get along without it. -/
lemma perform_of_excludes (hout : policy.Excludes view.pointer) (instr : Instr) :
    view.perform policy instr = .error (.outOfBounds ⟨view.pointer⟩) ∨
      ∀ other, view.perform other instr = view.perform policy instr := by
  have hrefused := access_of_excludes hout
  cases instr with
  | loop body => exact .inl (by rw [perform, hrefused]; rfl)
  | act action =>
    cases action with
    | move | nop => exact .inr fun other => rfl
    | add | output | input => exact .inl (by rw [perform, act, hrefused]; rfl)

/-- **An instruction that is not refused** does the same under a larger policy. -/
lemma perform_of_le (hle : policy ≤ larger)
    (hfits : ∀ e, view.perform policy instr ≠ .error (.outOfBounds e)) :
    view.perform larger instr = view.perform policy instr := by
  by_cases hout : policy.Excludes view.pointer
  · obtain hrefused | hsame := perform_of_excludes hout instr
    · exact absurd hrefused (hfits _)
    · exact hsame larger
  · have haccess : view.access larger = view.access policy := by
      rw [access_of_includes hout, access_of_includes (Policy.includes_of_le hle hout)]
    cases instr with
    | loop body => rw [perform, perform, haccess]
    | act action => cases action <;> simp only [perform, act, haccess]

/-- An instruction on an address that the policy has is not refused. -/
lemma perform_of_includes (hin : ¬ policy.Excludes view.pointer) (e : OutOfBounds) :
    view.perform policy instr ≠ .error (.outOfBounds e) := by
  have haccess := access_of_includes hin
  cases instr with
  | loop body => simp [perform, haccess, Except.map]
  | act action =>
    cases action with
    | move n => simp [perform, act, Except.map]
    | nop => simp [perform, act, Except.map]
    | add n => simp [perform, act, haccess, Except.map, bind, Except.bind, pure, Except.pure]
    | output =>
      simp only [perform, act, haccess, Except.map, bind, Except.bind]
      rcases view.sink.write (view.cells view.pointer) with ⟨cause | ⟨⟩, sink⟩ <;>
        simp [pure, Except.pure]
    | input =>
      simp only [perform, act, haccess, Except.map, bind, Except.bind]
      rcases view.feed.read with ⟨cause | _ | byte, feed⟩ <;> simp [pure, Except.pure]

/-- An address that is refused is that of the pointer, and one that the policy excludes. -/
lemma excludes_of_perform {e : OutOfBounds}
    (h : view.perform policy instr = .error (.outOfBounds e)) : policy.Excludes e.address := by
  by_cases hout : policy.Excludes view.pointer
  · obtain hrefused | hsame := perform_of_excludes hout instr
    · rw [hrefused, Except.error.injEq, Fault.outOfBounds.injEq] at h
      exact h ▸ hout
    · -- a tape without ends refuses nothing
      have hnever : ¬ Policy.bothUnbounded.Excludes view.pointer := id
      rw [← hsame .bothUnbounded] at h
      exact absurd h (perform_of_includes hnever e)
  · exact absurd h (perform_of_includes hout e)

/-- A larger tape goes along with a smaller one until an access is refused. -/
lemma lockstep_of_le (hle : policy ≤ larger) :
    Lockstep policy larger Eq fun fault => ∀ e, fault ≠ .outOfBounds e where
  ok := by
    rintro view _ instr next later rfl hdoes
    have hfits : ∀ e, view.perform policy instr ≠ .error (.outOfBounds e) := by simp [hdoes]
    exact ⟨later, (perform_of_le hle hfits).trans hdoes, rfl⟩
  error := by
    rintro view _ instr fault rfl hshared hfails
    have hfits : ∀ e, view.perform policy instr ≠ .error (.outOfBounds e) := by
      intro e he
      rw [hfails, Except.error.injEq] at he
      exact hshared e he
    exact (perform_of_le hle hfits).trans hfails

end View

/-! ## Whole runs -/

namespace Machine

/-- The machines look the same: pointer, contents of every cell, input and output.  How much of the tape
is stored may differ. -/
structure Alike (machine other : Machine) : Prop where
  pointer_eq : other.pointer = machine.pointer
  cells_eq : ∀ address, other.memory.peek address = machine.memory.peek address
  feed_eq : other.feed = machine.feed
  sink_eq : other.sink = machine.sink

variable {policy larger : Policy}

lemma Twins.alike {machine twin : Machine} (h : machine.Twins policy larger Eq twin) :
    machine.Alike twin := by
  obtain ⟨view, _, hview, hview', rfl⟩ := h
  refine ⟨?_, fun address => ?_, ?_, ?_⟩
  · rw [hview'.pointer_eq, hview.pointer_eq]
  · rw [hview'.tape.peek_eq, hview.tape.peek_eq]
  · rw [hview'.feed_eq, hview.feed_eq]
  · rw [hview'.sink_eq, hview.sink_eq]

lemma init_twins (policy larger : Policy) (feed : Feed) (sink : Sink) :
    (init policy feed sink).Twins policy larger Eq (init larger feed sink) :=
  ⟨_, _, init_shows policy feed sink, init_shows larger feed sink, rfl⟩

/-- A step that is refused is refused an address that the policy excludes. -/
lemma Twins.excludes_of_step {program : Program} {stuck last : Stepper} {twin : Machine}
    {e : OutOfBounds} (h : stuck.machine.Twins policy larger Eq twin)
    (htrack : Stepper.OnTrack program stuck)
    (hstep : stuck.step = (.error (.fault (.outOfBounds e)), last)) : policy.Excludes e.address := by
  obtain ⟨view, -, hview, -, -⟩ := h
  obtain ⟨-, hidle⟩ | ⟨path, frame, outer, fault, after, -, -, hperform, hfails⟩ |
    ⟨report, after, place, -, -, hok, -⟩ := htrack.step_cases
  · simp [hidle] at hstep
  · rw [hfails, Prod.mk.injEq, Except.error.injEq, StepError.fault.injEq] at hstep
    obtain ⟨rfl, -⟩ := hstep
    rcases hdoes : view.perform policy frame.current with cause | ⟨next, later⟩
    · obtain ⟨reached, hreached, -⟩ := hview.fails hdoes
      simp only [hperform, Prod.mk.injEq, Except.error.injEq] at hreached
      rw [← hreached.1] at hdoes
      exact View.excludes_of_perform hdoes
    · obtain ⟨reached, hreached, -⟩ := hview.does hdoes
      simp [hperform] at hreached
  · simp [hok] at hstep

/-- **A larger tape makes no difference to a program that fits.**  A run that is not refused an address
ends in the same way on the larger tape, and the machines look the same.  A run that is refused one was
refused an address that its policy does not allow; up to there, step for step, the stepper on the larger
tape comes to the same place, and the machines look the same. -/
theorem larger_tape_same_run (program : Program) (feed : Feed) (sink : Sink) (policy larger : Policy)
    (hle : policy ≤ larger) :
    (∀ depth result after, Machine.run depth program (init policy feed sink) = some (result, after) →
      (∀ e, result ≠ .error (.outOfBounds e)) →
        ∃ after', Machine.run depth program (init larger feed sink) = some (result, after') ∧
          after.Alike after') ∧
    ∀ depth address after, Machine.run depth program (init policy feed sink) =
        some (.error (.outOfBounds ⟨address⟩), after) →
      policy.allows address = false ∧
      ∃ count stuck last, (Stepper.init program (init policy feed sink)).Makes count stuck ∧
        stuck.step = (.error (.fault (.outOfBounds ⟨address⟩)), last) ∧
        ∃ later, (Stepper.init program (init larger feed sink)).Makes count later ∧
          later.path = stuck.path ∧ stuck.machine.Alike later.machine := by
  have hlockstep := View.lockstep_of_le hle
  have hstart := init_twins policy larger feed sink
  constructor
  · intro depth result after hrun hfits
    have hshared : ∀ fault, result = .error fault → ∀ e, fault ≠ .outOfBounds e := by
      rintro fault rfl e rfl
      exact hfits e rfl
    obtain ⟨after', hrun', htwins⟩ := hlockstep.run hstart hshared hrun
    exact ⟨after', hrun', htwins.alike⟩
  · intro depth address after hrun
    obtain ⟨count, stuck, last, hmakes, hstops, -⟩ :=
      (Stepper.halts_iff_stops program _ after _).mp ⟨depth, hrun⟩
    obtain ⟨-, hfinished, -⟩ | ⟨e, hstep, he⟩ := hstops
    · simp [Except.mapError] at hfinished
    · simp only [Except.mapError, Except.error.injEq] at he
      subst he
      have hinit : (Stepper.init program (init policy feed sink)).machine.Twins policy larger Eq
          (init larger feed sink) := hstart
      obtain ⟨reached, hmakes', htwins⟩ := hlockstep.makes hinit hmakes
      have htrack := hmakes.onTrack (Stepper.onTrack_init program _)
      have hout : policy.Excludes address := htwins.excludes_of_step htrack hstep
      have hallows : policy.allows address = false := by
        rw [← Bool.not_eq_true, Policy.allows_iff, not_not]
        exact hout
      exact ⟨hallows, count, stuck, last, hmakes, hstep, _, hmakes', rfl, htwins.alike⟩

/-- The program `+>,` on one cell is refused the second one; with room to the right it would fail there
for want of input, and on the way it comes to the same place. -/
theorem second_cell_same_run :
    Policy.fixed 1 ≤ Policy.rightUnbounded ∧
    (∃ after, Machine.run 4 [.act (.add 1), .act (.move 1), .act .input]
        (init (.fixed 1) { pending := [] } {}) = some (.error (.outOfBounds ⟨1⟩), after)) ∧
    ∃ count stuck later, (Stepper.init [.act (.add 1), .act (.move 1), .act .input]
          (init (.fixed 1) { pending := [] } {})).Makes count stuck ∧
      (Stepper.init [.act (.add 1), .act (.move 1), .act .input]
          (init .rightUnbounded { pending := [] } {})).Makes count later ∧
      later.path = stuck.path ∧ stuck.machine.Alike later.machine := by
  have hle : Policy.fixed 1 ≤ Policy.rightUnbounded := trivial
  obtain ⟨-, hrefused⟩ := larger_tape_same_run [.act (.add 1), .act (.move 1), .act .input]
    { pending := [] } {} (.fixed 1) .rightUnbounded hle
  obtain ⟨-, count, stuck, last, hmakes, -, later, hlater, hpath, halike⟩ := hrefused 4 1 _ rfl
  exact ⟨hle, ⟨_, rfl⟩, count, stuck, later, hmakes, hlater, hpath, halike⟩

end Machine

end TapeLang
