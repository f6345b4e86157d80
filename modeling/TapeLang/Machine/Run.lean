import TapeLang.Machine

/-!
# Running a program to its end

`Machine.run` executes a program from its first instruction to its last.  A loop whose condition
holds runs its body and is then tested again.  Programs need not halt, so the run is bounded by a
depth: `none` means that the bound was too small, and any result is the same under every larger
bound.
-/

namespace TapeLang

/-- How a run ended, and the machine as the run left it. -/
abbrev Outcome := Except Fault Unit × Machine

/-- Runs a program.  The depth bounds the number of instructions in one body that are performed one
after the other, repetitions of a loop included, and the nesting of bodies. -/
def Machine.run : (depth : Nat) → Program → Machine → Option Outcome
  | 0, _, _ => none
  | _ + 1, [], machine => some (.ok (), machine)
  | depth + 1, instr :: more, machine =>
    match machine.perform instr with
    | (.error fault, machine) => some (.error fault, machine)
    | (.ok .advance, machine) => Machine.run depth more machine
    | (.ok (.enter body), machine) =>
      match Machine.run depth body machine with
      | none => none
      | some (.error fault, machine) => some (.error fault, machine)
      | some (.ok (), machine) => Machine.run depth (instr :: more) machine

end TapeLang
