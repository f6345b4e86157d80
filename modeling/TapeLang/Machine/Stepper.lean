import TapeLang.Machine
import TapeLang.Program.Path

/-!
# Running a program step by step

A stepper performs one instruction at a time and can be looked at in between.  It keeps the path of
the instruction to perform next.  A loop counts as a step each time it is tested: when its condition
holds the path goes down to the first instruction of the body, and from the end of the body it comes
back up to the loop.

* `Stepper.step` performs one instruction, and says whether a loop body was entered.
* `Stepper.run` steps until the program has ended.

A step that fails leaves the stepper where it was, except that the cell may have been made room for.
-/

namespace TapeLang

/-- Why a step failed: the machine is at fault, or the path leads nowhere. -/
inductive StepError where
  | fault (fault : Fault)
  | path (e : PathError)
deriving DecidableEq, Repr

/-- What a step did. -/
inductive StepReport where
  /-- The program had ended already. -/
  | idle
  /-- It performed an instruction, or tested a loop without going into a body. -/
  | performed
  /-- It went into the body of a loop, to the instruction with this path. -/
  | entered (path : Path)
deriving DecidableEq, Repr

/-- A program on its way through a machine. -/
structure Stepper where
  program : Program
  machine : Machine
  /-- The instruction to perform next; `none` once the program has ended. -/
  path : Option Path
  /-- The number of steps performed. -/
  steps : Nat

namespace Stepper

/-- A program before its first step. -/
def init (program : Program) (machine : Machine) : Stepper :=
  { program, machine, path := program.firstPath?, steps := 0 }

/-- Whether there is an instruction left to perform. -/
def running (stepper : Stepper) : Bool :=
  stepper.path.isSome

/-- The instruction to perform next. -/
def current? (stepper : Stepper) : Except PathError (Option Instr) :=
  match stepper.path with
  | none => .ok none
  | some path => (Program.instrAt stepper.program path).map some

/-- The path to go on with after an instruction: the next one in the same list, or else the loop
around it, or else none. -/
def following (program : Program) (path : Path) : Except PathError (Option Path) :=
  match Program.nextSibling program path with
  | .error e => .error e
  | .ok (some next) => .ok (some next)
  | .ok none =>
    match path.stepOut with
    | .error e => .error e
    | .ok [] => .ok none
    | .ok outer => .ok (some outer)

/-- Performs one instruction. -/
def step : Stepper → Except StepError StepReport × Stepper
  | ⟨program, machine, none, steps⟩ => (.ok .idle, ⟨program, machine, none, steps⟩)
  | ⟨program, machine, some path, steps⟩ =>
    match Program.instrAt program path with
    | .error e => (.error (.path e), ⟨program, machine, some path, steps⟩)
    | .ok instr =>
      match machine.perform instr with
      | (.error fault, machine) => (.error (.fault fault), ⟨program, machine, some path, steps⟩)
      | (.ok (.enter (_ :: _)), machine) =>
        (.ok (.entered path.stepIn), ⟨program, machine, some path.stepIn, steps + 1⟩)
      | (.ok (.enter []), machine) => (.ok .performed, ⟨program, machine, some path, steps + 1⟩)
      | (.ok .advance, machine) =>
        match following program path with
        | .error e => (.error (.path e), ⟨program, machine, some path, steps + 1⟩)
        | .ok next => (.ok .performed, ⟨program, machine, next, steps + 1⟩)

/-- Performs several instructions, and stops early at the first that fails. -/
def stepMany : Nat → Stepper → Except StepError Unit × Stepper
  | 0, stepper => (.ok (), stepper)
  | count + 1, stepper =>
    match stepper.step with
    | (.error e, stepper) => (.error e, stepper)
    | (.ok _, stepper) => stepMany count stepper

/-- Steps until the program has ended or fails; `none` means that more steps are needed than the
bound allows. -/
def run : (bound : Nat) → Stepper → Option (Except StepError Unit × Stepper)
  | 0, stepper => if stepper.running then none else some (.ok (), stepper)
  | bound + 1, stepper =>
    if stepper.running then
      match stepper.step with
      | (.error e, stepper) => some (.error e, stepper)
      | (.ok _, stepper) => run bound stepper
    else some (.ok (), stepper)

/-- The contents of a cell, or `none` for an address that the tape does not have. -/
def cell? (stepper : Stepper) (address : Int) : Option UInt8 :=
  stepper.machine.cell? address

/-- Changes a cell, and says whether the tape has it. -/
def setCell : Stepper → Int → Int → Bool × Stepper
  | ⟨program, machine, path, steps⟩, address, value =>
    match machine.setCell address value with
    | (found, machine) => (found, ⟨program, machine, path, steps⟩)

end Stepper

end TapeLang
