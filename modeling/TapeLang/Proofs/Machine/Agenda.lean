import Mathlib.Tactic.Common
import TapeLang.Machine.Run

/-!
# Running a program from an agenda

`Machine.run` goes down into a loop by calling itself, so what is left to do after the body is kept in
the recursion.  An `Agenda` writes it down: one `Frame` for each list of instructions that has been
begun, innermost first, each with the instruction it stands at.  `Agenda.run` performs one
instruction after the other and never calls itself twice.

The two ways of running agree, and this file proves it in both directions.

* `Machine.run_mono`: a result does not depend on the depth that was allowed.
* `Agenda.run_push_of_run`: what `Machine.run` does to a program, `Agenda.run` does to the same program
  on top of any agenda.
* `Agenda.halts_of_run_push`: conversely, an agenda that comes to an end with a program on top
  has run that program to its end first.
* **`Agenda.run_iff`**: the two have the same outcomes.
-/

namespace TapeLang

/-! ## Outcomes -/

/-- Goes on from an outcome, unless the run has failed. -/
def Outcome.andThen : Outcome → (Machine → Option Outcome) → Option Outcome
  | (.ok (), machine), rest => rest machine
  | (.error fault, machine), _ => some (.error fault, machine)

/-- Only a loop is entered, and what is entered is its body. -/
lemma Machine.eq_loop_of_perform_enter {machine after : Machine} {instr : Instr} {body : Program}
    (h : machine.perform instr = (.ok (.enter body), after)) : instr = .loop body := by
  cases instr with
  | act action =>
    exfalso
    cases action with
    | move n => simp [Machine.perform, Machine.performAction] at h
    | add n =>
      simp only [Machine.perform, Machine.performAction] at h
      split at h <;> simp at h
    | output =>
      simp only [Machine.perform, Machine.performAction, Machine.performOutput] at h
      split at h
      · simp at h
      · split at h <;> simp at h
    | input =>
      simp only [Machine.perform, Machine.performAction, Machine.performInput] at h
      split at h
      · simp at h
      · split at h
        · simp at h
        · simp at h
        · split at h <;> simp at h
    | nop => simp [Machine.perform, Machine.performAction] at h
  | loop inner =>
    simp only [Machine.perform, Machine.performLoop] at h
    split at h
    · simp at h
    · split_ifs at h with hzero
      · simp at h
      · simp only [Prod.mk.injEq, Except.ok.injEq, Next.enter.injEq] at h
        rw [h.1]

/-! ## Running to the end, one equation for each kind of instruction -/

namespace Machine

variable {machine after : Machine} {instr : Instr} {more : Program}

lemma run_of_error {fault : Fault} (h : machine.perform instr = (.error fault, after)) (depth : Nat) :
    Machine.run (depth + 1) (instr :: more) machine = some (.error fault, after) := by
  simp only [Machine.run, h]

lemma run_of_advance (h : machine.perform instr = (.ok .advance, after)) (depth : Nat) :
    Machine.run (depth + 1) (instr :: more) machine = Machine.run depth more after := by
  simp only [Machine.run, h]

lemma run_of_enter {body : Program} (h : machine.perform instr = (.ok (.enter body), after))
    (depth : Nat) :
    Machine.run (depth + 1) (instr :: more) machine =
      (Machine.run depth body after).bind fun outcome =>
        outcome.andThen (Machine.run depth (instr :: more)) := by
  simp only [Machine.run, h]
  rcases Machine.run depth body after with _ | ⟨_ | ⟨⟩, _⟩ <;> rfl

/-- **A result is final.**  A greater depth does not change it. -/
theorem run_mono {depth deeper : Nat} {program : Program} {outcome : Outcome}
    (h : Machine.run depth program machine = some outcome) (hle : depth ≤ deeper) :
    Machine.run deeper program machine = some outcome := by
  induction depth generalizing deeper program machine outcome with
  | zero => simp [Machine.run] at h
  | succ depth ih =>
    obtain ⟨deeper, rfl⟩ : ∃ d, deeper = d + 1 := ⟨deeper - 1, by omega⟩
    have hle : depth ≤ deeper := by omega
    cases program with
    | nil => exact h
    | cons instr more =>
      rcases hperform : machine.perform instr with ⟨fault | next, after⟩
      · rw [run_of_error hperform] at h ⊢
        exact h
      · cases next with
        | advance =>
          rw [run_of_advance hperform] at h ⊢
          exact ih h hle
        | enter body =>
          rw [run_of_enter hperform] at h ⊢
          obtain ⟨⟨result, midway⟩, hbody, hrest⟩ := Option.bind_eq_some_iff.mp h
          rw [ih hbody hle]
          cases result with
          | error fault => exact hrest
          | ok => exact ih hrest hle

/-! ## Halting, whatever the depth -/

/-- A program comes to an end with the given outcome, if only the depth is great enough. -/
def Halts (program : Program) (machine : Machine) (outcome : Outcome) : Prop :=
  ∃ depth, Machine.run depth program machine = some outcome

lemma Halts.unique {program : Program} {first second : Outcome}
    (h : Halts program machine first) (h' : Halts program machine second) : first = second := by
  obtain ⟨depth, h⟩ := h
  obtain ⟨depth', h'⟩ := h'
  have hfirst := run_mono h (Nat.le_max_left depth depth')
  rw [run_mono h' (Nat.le_max_right depth depth')] at hfirst
  exact (Option.some.inj hfirst).symm

lemma halts_nil (machine : Machine) : Halts [] machine (.ok (), machine) := ⟨1, rfl⟩

lemma halts_of_error {fault : Fault} (h : machine.perform instr = (.error fault, after)) :
    Halts (instr :: more) machine (.error fault, after) := ⟨1, run_of_error h 0⟩

lemma Halts.advance {outcome : Outcome} (hmore : Halts more after outcome)
    (h : machine.perform instr = (.ok .advance, after)) :
    Halts (instr :: more) machine outcome := by
  obtain ⟨depth, hmore⟩ := hmore
  exact ⟨depth + 1, by rw [run_of_advance h, hmore]⟩

lemma Halts.of_advance {outcome : Outcome} (hhalts : Halts (instr :: more) machine outcome)
    (h : machine.perform instr = (.ok .advance, after)) : Halts more after outcome := by
  obtain ⟨_ | depth, hrun⟩ := hhalts
  · simp [Machine.run] at hrun
  · exact ⟨depth, by rw [← run_of_advance h, hrun]⟩

/-- A body that fails fails the loop; after any other the loop is tested again. -/
lemma Halts.enter_error {body : Program} {fault : Fault} {midway : Machine}
    (hbody : Halts body after (.error fault, midway))
    (h : machine.perform instr = (.ok (.enter body), after)) :
    Halts (instr :: more) machine (.error fault, midway) := by
  obtain ⟨depth, hbody⟩ := hbody
  exact ⟨depth + 1, by rw [run_of_enter h, hbody]; rfl⟩

lemma Halts.enter {body : Program} {midway : Machine} {outcome : Outcome}
    (hbody : Halts body after (.ok (), midway))
    (hagain : Halts (instr :: more) midway outcome)
    (h : machine.perform instr = (.ok (.enter body), after)) :
    Halts (instr :: more) machine outcome := by
  obtain ⟨depth, hbody⟩ := hbody
  obtain ⟨depth', hagain⟩ := hagain
  refine ⟨max depth depth' + 1, ?_⟩
  rw [run_of_enter h, run_mono hbody (Nat.le_max_left depth depth')]
  exact run_mono hagain (Nat.le_max_right depth depth')

end Machine

/-! ## The agenda -/

/-- A list of instructions that has been begun: the one to perform next, and those behind it. -/
structure Frame where
  current : Instr
  more : Program

/-- What is left to do, innermost list first.  Every frame but the first stands at the loop whose body
is the frame before it. -/
abbrev Agenda := List Frame

namespace Agenda

/-- Puts a list of instructions on top.  An empty list is done at once. -/
def push : Program → Agenda → Agenda
  | [], agenda => agenda
  | instr :: more, agenda => ⟨instr, more⟩ :: agenda

/-- What is left after the current instruction of `frame` has been performed. -/
def proceed (frame : Frame) (outer : Agenda) : Next → Agenda
  | .advance => push frame.more outer
  | .enter body => push body (frame :: outer)

/-- Performs what is on the agenda; `none` means that it takes more instructions than the bound
allows. -/
def run : (bound : Nat) → Agenda → Machine → Option Outcome
  | _, [], machine => some (.ok (), machine)
  | 0, _ :: _, _ => none
  | bound + 1, frame :: outer, machine =>
    match machine.perform frame.current with
    | (.error fault, machine) => some (.error fault, machine)
    | (.ok next, machine) => run bound (proceed frame outer next) machine

lemma run_nil (bound : Nat) (machine : Machine) : run bound [] machine = some (.ok (), machine) := by
  cases bound <;> rfl

lemma run_push_of_error {machine after : Machine} {instr : Instr} {fault : Fault}
    (h : machine.perform instr = (.error fault, after)) (bound : Nat) (more : Program)
    (agenda : Agenda) :
    run (bound + 1) (push (instr :: more) agenda) machine = some (.error fault, after) := by
  simp only [push, run, h]

lemma run_push_of_ok {machine after : Machine} {instr : Instr} {next : Next}
    (h : machine.perform instr = (.ok next, after)) (bound : Nat) (more : Program)
    (agenda : Agenda) :
    run (bound + 1) (push (instr :: more) agenda) machine =
      run bound (proceed ⟨instr, more⟩ agenda next) after := by
  simp only [push, run, h]

/-- **From the recursion to the agenda.**  A program that comes to an end does so on top of any agenda,
after a number of instructions that does not depend on what lies below. -/
theorem run_push_of_run {depth : Nat} {program : Program} {machine : Machine} {outcome : Outcome}
    (h : Machine.run depth program machine = some outcome) :
    ∃ used, ∀ agenda bound,
      run (used + bound) (push program agenda) machine = outcome.andThen (run bound agenda) := by
  induction depth generalizing program machine outcome with
  | zero => simp [Machine.run] at h
  | succ depth ih =>
    cases program with
    | nil =>
      simp only [Machine.run, Option.some.injEq] at h
      subst h
      exact ⟨0, fun agenda bound => by rw [Nat.zero_add]; rfl⟩
    | cons instr more =>
      rcases hperform : machine.perform instr with ⟨fault | next, after⟩
      · rw [Machine.run_of_error hperform, Option.some.injEq] at h
        subst h
        refine ⟨1, fun agenda bound => ?_⟩
        rw [Nat.add_comm, run_push_of_error hperform]
        rfl
      · cases next with
        | advance =>
          rw [Machine.run_of_advance hperform] at h
          obtain ⟨used, hused⟩ := ih h
          refine ⟨used + 1, fun agenda bound => ?_⟩
          rw [Nat.add_right_comm, run_push_of_ok hperform]
          exact hused agenda bound
        | enter body =>
          rw [Machine.run_of_enter hperform] at h
          obtain ⟨⟨result, midway⟩, hbody, hrest⟩ := Option.bind_eq_some_iff.mp h
          obtain ⟨used, hused⟩ := ih hbody
          cases result with
          | error fault =>
            simp only [Outcome.andThen, Option.some.injEq] at hrest
            subst hrest
            refine ⟨used + 1, fun agenda bound => ?_⟩
            rw [Nat.add_right_comm, run_push_of_ok hperform]
            exact hused _ bound
          | ok =>
            -- the body is done on top of the loop, and then the loop on top of the agenda
            obtain ⟨used', hused'⟩ := ih hrest
            refine ⟨used + used' + 1, fun agenda bound => ?_⟩
            rw [show used + used' + 1 + bound = used + (used' + bound) + 1 by omega,
              run_push_of_ok hperform]
            exact (hused _ (used' + bound)).trans (hused' agenda bound)

/-- **From the agenda to the recursion.**  If an agenda with a program on top comes to an end, then so
does the program, and what lies below goes on from there with the instructions that are left. -/
theorem halts_of_run_push {bound : Nat} {program : Program} {agenda : Agenda} {machine : Machine}
    {last : Outcome} (h : run bound (push program agenda) machine = some last) :
    ∃ outcome, Machine.Halts program machine outcome ∧
      ∃ left ≤ bound, outcome.andThen (run left agenda) = some last := by
  induction bound using Nat.strongRecOn generalizing program agenda machine with
  | ind bound ih =>
    cases program with
    | nil => exact ⟨_, Machine.halts_nil machine, bound, Nat.le_refl bound, h⟩
    | cons instr more =>
      cases bound with
      | zero => simp [push, run] at h
      | succ bound =>
        rcases hperform : machine.perform instr with ⟨fault | next, after⟩
        · rw [run_push_of_error hperform] at h
          exact ⟨_, Machine.halts_of_error hperform, 0, Nat.zero_le _, h⟩
        · rw [run_push_of_ok hperform] at h
          cases next with
          | advance =>
            obtain ⟨outcome, hmore, left, hleft, hlast⟩ := ih bound (Nat.lt_succ_self bound) h
            exact ⟨outcome, hmore.advance hperform, left, by omega, hlast⟩
          | enter body =>
            obtain ⟨⟨result, midway⟩, hbody, left, hleft, hlast⟩ :=
              ih bound (Nat.lt_succ_self bound) h
            cases result with
            | error fault => exact ⟨_, hbody.enter_error hperform, 0, Nat.zero_le _, hlast⟩
            | ok =>
              -- what is left of the bound goes to the loop, which is tested again
              have hloop : run left (push (instr :: more) agenda) midway = some last := hlast
              obtain ⟨outcome, hagain, left', hleft', hlast'⟩ := ih left (by omega) hloop
              exact ⟨outcome, hbody.enter hagain hperform, left', by omega, hlast'⟩

/-- **Both ways of running agree.** -/
theorem run_iff (program : Program) (machine : Machine) (outcome : Outcome) :
    (∃ bound, run bound (push program []) machine = some outcome) ↔
      Machine.Halts program machine outcome := by
  constructor
  · rintro ⟨bound, h⟩
    obtain ⟨⟨result, after⟩, hhalts, left, -, hlast⟩ := halts_of_run_push h
    cases result with
    | error fault =>
      simp only [Outcome.andThen, Option.some.injEq] at hlast
      rwa [← hlast]
    | ok =>
      simp only [Outcome.andThen, run_nil, Option.some.injEq] at hlast
      rwa [← hlast]
  · rintro ⟨depth, h⟩
    obtain ⟨used, hused⟩ := run_push_of_run h
    refine ⟨used + 0, ?_⟩
    rw [hused]
    rcases outcome with ⟨_ | ⟨⟩, after⟩
    · rfl
    · exact run_nil 0 after

end Agenda

end TapeLang
