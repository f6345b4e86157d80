import TapeLang.Machine.Stepper
import TapeLang.Proofs.Machine.Agenda

/-!
# Stepping is running

A stepper knows where it is by a path of indices, and moves it about: down into a body, on to the next
instruction, up to the loop around.  `Machine.run` has no path.  What connects them is the agenda that
a path stands for.

* `Located program path frame outer` says that a path leads to the current instruction of `frame`, with
  `outer` left to do after that frame.  Each of the three moves of a path is one lemma about it:
  `Located.stepIn`, `Located.nextSibling`, `Located.stepOut`.
* `Stepper.step_of_ok`: a step of the stepper is a step of the agenda.
* `Stepper.run_eq_agenda_run`: so the two run alike, step for step.
* **`Stepper.run_agrees`**: stepping a program to its end and running it end in the same way.
-/

namespace TapeLang

/-! ## Following a path through a loop -/

namespace Program

variable {program more body : Program} {index : Nat} {path : Path}

lemma getElem?_of_drop_eq_cons {instr : Instr} (hdrop : program.drop index = instr :: more) :
    program[index]? = some instr := by
  rw [← List.head?_drop, hdrop]
  rfl

lemma length_of_drop_eq_cons {instr : Instr} (hdrop : program.drop index = instr :: more) :
    program.length = index + 1 + more.length := by
  have hlength := congrArg List.length hdrop
  simp only [List.length_drop, List.length_cons] at hlength
  omega

lemma instrAt_loop (hdrop : program.drop index = .loop body :: more) (hpath : path ≠ []) :
    instrAt program ((index : Int) :: path) = instrAt body path := by
  obtain ⟨first, rest, rfl⟩ := List.exists_cons_of_ne_nil hpath
  rw [instrAt, if_neg (by omega), Int.toNat_natCast, getElem?_of_drop_eq_cons hdrop]

lemma nextSibling_loop (hdrop : program.drop index = .loop body :: more) (hpath : path ≠ []) :
    nextSibling program ((index : Int) :: path) =
      (nextSibling body path).map (Option.map ((index : Int) :: ·)) := by
  obtain ⟨first, rest, rfl⟩ := List.exists_cons_of_ne_nil hpath
  have hselected : fromEnd? program (index : Int) = some (.loop body) := by
    rw [fromEnd?, if_pos (by omega), Int.toNat_natCast, getElem?_of_drop_eq_cons hdrop]
  rw [nextSibling, hselected]
  · simp only
    rcases nextSibling body (first :: rest) <;> rfl
  · exact List.cons_ne_nil first rest

end Program

/-! ## Where a path stands -/

/-- The path leads to the current instruction of `frame`; the frames around it are `outer`. -/
inductive Located : Program → Path → Frame → Agenda → Prop
  | here {program more : Program} {instr : Instr} {index : Nat}
      (hdrop : program.drop index = instr :: more) :
      Located program [(index : Int)] ⟨instr, more⟩ []
  | inside {program body more : Program} {index : Nat} {path : Path} {frame : Frame} {outer : Agenda}
      (hdrop : program.drop index = .loop body :: more) (deeper : Located body path frame outer) :
      Located program ((index : Int) :: path) frame (outer ++ [⟨.loop body, more⟩])

namespace Located

variable {program : Program} {path : Path} {frame : Frame} {outer : Agenda}

lemma path_ne_nil (h : Located program path frame outer) : path ≠ [] := by
  cases h <;> exact List.cons_ne_nil _ _

lemma instrAt (h : Located program path frame outer) :
    Program.instrAt program path = .ok frame.current := by
  induction h with
  | @here program more instr index hdrop =>
    rw [Program.instrAt, if_neg (by omega), Int.toNat_natCast,
      Program.getElem?_of_drop_eq_cons hdrop]
  | inside hdrop deeper ih => rw [Program.instrAt_loop hdrop deeper.path_ne_nil, ih]

lemma first (instr : Instr) (more : Program) : Located (instr :: more) [0] ⟨instr, more⟩ [] :=
  have hdrop : (instr :: more).drop 0 = instr :: more := rfl
  .here hdrop

/-- Going into a body puts it on top. -/
lemma stepIn {first : Instr} {rest : Program} (h : Located program path frame outer)
    (hloop : frame.current = .loop (first :: rest)) :
    Located program path.stepIn ⟨first, rest⟩ (frame :: outer) := by
  induction h with
  | here hdrop =>
    subst hloop
    exact .inside hdrop (Located.first first rest)
  | inside hdrop deeper ih => exact .inside hdrop (ih hloop)

/-- Going on to the next instruction shortens the frame. -/
lemma nextSibling {next : Instr} {rest : Program} (h : Located program path frame outer)
    (hmore : frame.more = next :: rest) :
    ∃ beside, Program.nextSibling program path = .ok (some beside) ∧
      Located program beside ⟨next, rest⟩ outer := by
  induction h with
  | @here program more instr index hdrop =>
    subst hmore
    have hlength := Program.length_of_drop_eq_cons hdrop
    have hbeside : program.drop (index + 1) = next :: rest := by
      rw [← List.drop_drop, hdrop]
      rfl
    refine ⟨[((index + 1 : Nat) : Int)], ?_, .here hbeside⟩
    rw [Program.nextSibling, if_pos (by rw [hlength, List.length_cons]; omega)]
    rfl
  | @inside program body more index path frame outer hdrop deeper ih =>
    obtain ⟨beside, hsibling, hbeside⟩ := ih hmore
    refine ⟨(index : Int) :: beside, ?_, .inside hdrop hbeside⟩
    rw [Program.nextSibling_loop hdrop deeper.path_ne_nil, hsibling]
    rfl

lemma nextSibling_of_last (h : Located program path frame outer) (hmore : frame.more = []) :
    Program.nextSibling program path = .ok none := by
  induction h with
  | @here program more instr index hdrop =>
    subst hmore
    have hlength := Program.length_of_drop_eq_cons hdrop
    rw [Program.nextSibling, if_neg (by rw [hlength, List.length_nil]; omega)]
  | inside hdrop deeper ih =>
    rw [Program.nextSibling_loop hdrop deeper.path_ne_nil, ih hmore]
    rfl

lemma dropLast_of_outermost (h : Located program path frame []) : path.dropLast = [] := by
  generalize houter : ([] : Agenda) = outer at h
  cases h with
  | here hdrop => rfl
  | inside hdrop deeper => simp at houter

/-- Going up leads to the loop around, where the next frame stands. -/
lemma stepOut {around : Frame} {beyond : Agenda} (h : Located program path frame outer)
    (houter : outer = around :: beyond) : Located program path.dropLast around beyond := by
  induction h generalizing beyond with
  | here hdrop => exact absurd houter.symm (List.cons_ne_nil _ _)
  | @inside program body more index path frame outer hdrop deeper ih =>
    rw [List.dropLast_cons_of_ne_nil deeper.path_ne_nil]
    cases outer with
    | nil =>
      obtain ⟨rfl, rfl⟩ := List.cons_eq_cons.mp houter
      rw [deeper.dropLast_of_outermost]
      exact .here hdrop
    | cons top below =>
      obtain ⟨rfl, rfl⟩ := List.cons_eq_cons.mp houter
      exact .inside hdrop (ih rfl)

end Located

/-- What a stepper keeps of its place: a path into the program, or none when nothing is left. -/
def Tracks (program : Program) : Option Path → Agenda → Prop
  | none, agenda => agenda = []
  | some path, agenda => ∃ frame outer, agenda = frame :: outer ∧ Located program path frame outer

lemma tracks_firstPath (program : Program) :
    Tracks program program.firstPath? (Agenda.push program []) := by
  cases program with
  | nil => rfl
  | cons instr more => exact ⟨_, _, rfl, Located.first instr more⟩

/-! ## One step -/

namespace Stepper

variable {program : Program} {machine after : Machine} {path : Path} {frame : Frame} {outer : Agenda}

/-- The path to go on with tracks what is left when an instruction is done. -/
lemma following_of_located (h : Located program path frame outer) :
    ∃ next, following program path = .ok next ∧
      Tracks program next (Agenda.push frame.more outer) := by
  cases hmore : frame.more with
  | cons instr rest =>
    obtain ⟨beside, hsibling, hbeside⟩ := h.nextSibling hmore
    exact ⟨some beside, by rw [following, hsibling], _, _, rfl, hbeside⟩
  | nil =>
    have hsibling := h.nextSibling_of_last hmore
    have hout : path.stepOut = .ok path.dropLast := by
      obtain ⟨first, rest, rfl⟩ := List.exists_cons_of_ne_nil h.path_ne_nil
      rfl
    cases outer with
    | nil =>
      refine ⟨none, ?_, rfl⟩
      rw [following, hsibling, hout, h.dropLast_of_outermost]
    | cons around beyond =>
      have hup := h.stepOut rfl
      obtain ⟨first, rest, hpath⟩ := List.exists_cons_of_ne_nil hup.path_ne_nil
      refine ⟨some path.dropLast, ?_, _, _, rfl, hup⟩
      rw [following, hsibling, hout, hpath]

lemma step_of_error (h : Located program path frame outer) {fault : Fault}
    (hperform : machine.perform frame.current = (.error fault, after)) (steps : Nat) :
    step ⟨program, machine, some path, steps⟩ =
      (.error (.fault fault), ⟨program, after, some path, steps⟩) := by
  simp only [step, h.instrAt, hperform]

/-- **One step.**  Performing the instruction at a path leads to a path that tracks what is left on the
agenda.  An empty body leaves the path at its loop, and the agenda as well. -/
lemma step_of_ok (h : Located program path frame outer) {next : Next}
    (hperform : machine.perform frame.current = (.ok next, after)) (steps : Nat) :
    ∃ report place, step ⟨program, machine, some path, steps⟩ =
        (.ok report, ⟨program, after, place, steps + 1⟩) ∧
      Tracks program place (Agenda.proceed frame outer next) := by
  cases next with
  | advance =>
    obtain ⟨place, hfollowing, htracks⟩ := following_of_located h
    exact ⟨.performed, place, by simp only [step, h.instrAt, hperform, hfollowing], htracks⟩
  | enter body =>
    have hloop := Machine.eq_loop_of_perform_enter hperform
    cases body with
    | nil =>
      exact ⟨.performed, some path, by simp only [step, h.instrAt, hperform], _, _, rfl, h⟩
    | cons first rest =>
      exact ⟨.entered path.stepIn, some path.stepIn, by simp only [step, h.instrAt, hperform],
        _, _, rfl, h.stepIn hloop⟩

/-! ## Whole runs -/

/-- What remains of an ending when the stepper's own place is forgotten. -/
def ending (run : Except StepError Unit × Stepper) : Except StepError Unit × Machine :=
  (run.1, run.2.machine)

/-- The faults of a run as a stepper reports them. -/
def reported (outcome : Outcome) : Except StepError Unit × Machine :=
  (outcome.1.mapError StepError.fault, outcome.2)

/-- A stepper whose path tracks an agenda runs as the agenda does, step for step. -/
theorem run_eq_agenda_run (bound : Nat) {place : Option Path} {agenda : Agenda}
    (h : Tracks program place agenda) (machine : Machine) (steps : Nat) :
    (run bound ⟨program, machine, place, steps⟩).map ending =
      (Agenda.run bound agenda machine).map reported := by
  induction bound generalizing place agenda machine steps with
  | zero =>
    cases place with
    | none =>
      subst h
      rfl
    | some path =>
      obtain ⟨frame, outer, rfl, -⟩ := h
      rfl
  | succ bound ih =>
    cases place with
    | none =>
      subst h
      rfl
    | some path =>
      obtain ⟨frame, outer, rfl, hlocated⟩ := h
      have hrunning : (⟨program, machine, some path, steps⟩ : Stepper).running = true := rfl
      rcases hperform : machine.perform frame.current with ⟨fault | next, after⟩
      · rw [run, if_pos hrunning, step_of_error hlocated hperform]
        simp only [Agenda.run, hperform]
        rfl
      · obtain ⟨report, place, hstep, htracks⟩ := step_of_ok hlocated hperform steps
        rw [run, if_pos hrunning, hstep]
        simp only [Agenda.run, hperform]
        exact ih htracks after (steps + 1)

lemma run_init_iff (program : Program) (machine : Machine) (result : Except StepError Unit × Machine) :
    (∃ bound, (run bound (init program machine)).map ending = some result) ↔
      ∃ outcome, Machine.Halts program machine outcome ∧ reported outcome = result := by
  have hagenda : ∀ bound, (run bound (init program machine)).map ending =
      (Agenda.run bound (Agenda.push program []) machine).map reported :=
    fun bound => run_eq_agenda_run bound (tracks_firstPath program) machine 0
  simp only [hagenda, Option.map_eq_some_iff, ← Agenda.run_iff]
  constructor
  · rintro ⟨bound, outcome, hrun, hreported⟩
    exact ⟨outcome, ⟨bound, hrun⟩, hreported⟩
  · rintro ⟨outcome, ⟨bound, hrun⟩, hreported⟩
    exact ⟨bound, outcome, hrun, hreported⟩

/-- **Stepping is running.**  For every program, executable or not, and every machine to begin with,
whatever its tape and its streams: stepping comes to an end exactly when running does, and then
with the same result and the same machine: pointer, both buffers of the tape, input and output. -/
theorem run_agrees (program : Program) (machine : Machine) :
    ((∃ depth outcome, Machine.run depth program machine = some outcome) ↔
      ∃ bound last, run bound (init program machine) = some last) ∧
    ∀ depth bound result after last stepper,
      Machine.run depth program machine = some (result, after) →
      run bound (init program machine) = some (last, stepper) →
      last = result.mapError StepError.fault ∧ stepper.machine = after := by
  refine ⟨⟨?_, ?_⟩, ?_⟩
  · rintro ⟨depth, outcome, hrun⟩
    obtain ⟨bound, hstepped⟩ := (run_init_iff program machine _).mpr ⟨outcome, ⟨depth, hrun⟩, rfl⟩
    obtain ⟨last, hlast, -⟩ := Option.map_eq_some_iff.mp hstepped
    exact ⟨bound, last, hlast⟩
  · rintro ⟨bound, last, hlast⟩
    obtain ⟨outcome, ⟨depth, hrun⟩, -⟩ :=
      (run_init_iff program machine (ending last)).mp ⟨bound, by rw [hlast]; rfl⟩
    exact ⟨depth, outcome, hrun⟩
  · intro depth bound result after last stepper hrun hlast
    obtain ⟨outcome, hhalts, hreported⟩ :=
      (run_init_iff program machine (ending (last, stepper))).mp ⟨bound, by rw [hlast]; rfl⟩
    have hsame : outcome = (result, after) := hhalts.unique ⟨depth, hrun⟩
    subst hsame
    obtain ⟨hresult, hmachine⟩ := Prod.mk.inj hreported
    exact ⟨hresult.symm, hmachine.symm⟩

end Stepper

end TapeLang
