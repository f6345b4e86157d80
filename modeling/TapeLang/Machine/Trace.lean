import TapeLang.Machine.Stepper
import TapeLang.Text.Column

/-!
# Watching a program run

A snapshot is the state of a stepper before a step, with the cells around the pointer.  Tracing
takes a snapshot before every step, and stops when the program ends, fails, or has made as many
steps as were asked for.

* `Stepper.snapshot` takes a snapshot; `Snapshot.render` shows it in four rows: a heading, the
  addresses, the contents, and a caret under the pointer.
* `Stepper.trace` runs a program under observation.
-/

namespace TapeLang

/-- The state of a stepper before a step. -/
structure Snapshot where
  steps : Nat
  path : Path
  instr : Instr
  pointer : Int
  windowStart : Int
  window : List UInt8
deriving Repr

/-! ## Text of a snapshot -/

/-- A short text for an instruction: the direction and length of a move, a signed addend, the
symbol of a transfer, or the length of a loop's body. -/
def Instr.brief : Instr → String
  | .act (.move n) => (if 0 < n then ">" else "<") ++ toString n.natAbs
  | .act (.add n) => (if n < 0 then "-" else "+") ++ toString n.natAbs
  | .act .output => "."
  | .act .input => ","
  | .act .nop => Action.nop.render
  | .loop body => "[" ++ toString body.length ++ "]"

namespace Snapshot

/-- The addresses of the window, each with the contents of its cell. -/
def cells (snapshot : Snapshot) : List (Int × UInt8) :=
  snapshot.window.zipIdx.map fun (cell, offset) => (snapshot.windowStart + offset, cell)

/-- The row of addresses. -/
def addressRow (snapshot : Snapshot) : String :=
  String.intercalate " " (snapshot.cells.map fun (address, _) => Text.padLeft 4 (toString address))

/-- The row of contents. -/
def contentsRow (snapshot : Snapshot) : String :=
  String.intercalate " " (snapshot.cells.map fun (_, cell) => Text.padLeft 4 (toString cell.toNat))

/-- The row with the caret, without blanks at its end. -/
def caretRow (snapshot : Snapshot) : String :=
  let row := String.intercalate " " <| snapshot.cells.map fun (address, _) =>
    if address = snapshot.pointer then "   ^" else "    "
  String.ofList (row.toList.reverse.dropWhile (· = ' ')).reverse

/-- The three rows of the window. -/
def windowText (snapshot : Snapshot) : String :=
  String.intercalate "\n" [snapshot.addressRow, snapshot.contentsRow, snapshot.caretRow]

/-- The heading: number of steps, path, instruction and pointer. -/
def heading (snapshot : Snapshot) : String :=
  let path := String.intercalate "." (snapshot.path.map toString)
  "step " ++ Text.padLeft 6 (toString snapshot.steps) ++ " @ " ++ Text.padRight 12 path ++ " "
    ++ Text.padRight 6 snapshot.instr.brief ++ " ptr=" ++ toString snapshot.pointer

/-- The snapshot as text. -/
def render (snapshot : Snapshot) : String :=
  snapshot.heading ++ "\n" ++ snapshot.windowText

end Snapshot

/-! ## Tracing -/

/-- How many cells a snapshot shows on either side of the pointer if nothing else is asked. -/
def standardRadius : Int := 8

/-- The state before the next step; `none` once the program has ended. -/
def Stepper.snapshot (stepper : Stepper) (radius : Int) : Except PathError (Option Snapshot) :=
  match stepper.path with
  | none => .ok none
  | some path =>
    match Program.instrAt stepper.program path with
    | .error e => .error e
    | .ok instr =>
      let pointer := stepper.machine.pointer
      .ok (some
        { steps := stepper.steps
          path
          instr
          pointer
          windowStart := pointer - radius
          window := stepper.machine.memory.window (pointer - radius) (pointer + radius + 1) })

/-- What can be seen of a traced run. -/
inductive TraceEvent where
  /-- The state before a step. -/
  | frame (snapshot : Snapshot)
  /-- The path of the instruction at which a step went into a loop body. -/
  | entered (path : Path)
deriving Repr

/-- The events of a step. -/
def StepReport.events : StepReport → List TraceEvent
  | .entered path => [.entered path]
  | _ => []

/-- A traced run: what was seen, whether it failed, and the stepper as the run left it. -/
structure Traced where
  events : List TraceEvent
  result : Except StepError Unit
  stepper : Stepper

/-- The snapshots of a traced run. -/
def Traced.frames (traced : Traced) : List Snapshot :=
  traced.events.filterMap fun
    | .frame snapshot => some snapshot
    | .entered _ => none

/-- Whether a number of steps has used up a limit. -/
def limitReached (limit : Option Int) (steps : Nat) : Bool :=
  limit.any (decide <| · ≤ (steps : Int))

/-- Runs a program under observation, up to a limit of steps if there is one.  As with
`Stepper.run`, the result is `none` if more steps are needed than the bound allows. -/
def Stepper.trace (limit : Option Int) (radius : Int) : (bound : Nat) → Stepper → Option Traced
  | 0, _ => none
  | bound + 1, stepper =>
    if limitReached limit stepper.steps then some ⟨[], .ok (), stepper⟩
    else
      match stepper.snapshot radius with
      | .error e => some ⟨[], .error (.path e), stepper⟩
      | .ok none => some ⟨[], .ok (), stepper⟩
      | .ok (some snapshot) =>
        match stepper.step with
        | (.error e, stepper) => some ⟨[.frame snapshot], .error e, stepper⟩
        | (.ok report, stepper) =>
          match Stepper.trace limit radius bound stepper with
          | none => none
          | some traced =>
            some { traced with events := .frame snapshot :: (report.events ++ traced.events) }

end TapeLang
