import TapeLang.Memory
import TapeLang.Program

/-!
# The machine

A machine has a pointer, a tape and two byte streams.  It performs one instruction at a time and
says what comes next: the following instruction, or the body of a loop whose condition holds.

* `Feed` delivers the input, `Sink` takes the output; both can be made to fail.  A stream that fails is
  left as it was, and so it goes on failing until something else than the machine changes it.
* `Fault` is why an instruction cannot be performed.
* `Machine.perform` performs one instruction.  It gives back the machine also when it fails.
-/

namespace TapeLang

/-! ## Byte streams -/

/-- How a byte stream can fail. -/
inductive IoCause where
  /-- The input cannot be read. -/
  | unreadable
  /-- The output cannot be written. -/
  | unwritable
  /-- The output took none of the bytes that it was given. -/
  | shortWrite
deriving DecidableEq, Repr

/-- The wording of each cause. -/
def IoCause.message : IoCause → String
  | .unreadable => "read failed"
  | .unwritable => "write failed"
  | .shortWrite => "failed to write whole buffer"

/-- The input: the bytes still to come and the number of those already delivered.  It may be set
to fail once a certain number has been delivered. -/
structure Feed where
  pending : List UInt8
  consumed : Nat := 0
  failsAfter : Option Nat := none
deriving DecidableEq, Repr

/-- Whether the input has come to the point where it fails. -/
def Feed.failed (feed : Feed) : Bool :=
  feed.failsAfter.any (decide <| · ≤ feed.consumed)

/-- Takes a byte from the input; `none` means that it has ended. -/
def Feed.read (feed : Feed) : Except IoCause (Option UInt8) × Feed :=
  if feed.failed then (.error .unreadable, feed)
  else
    match feed.pending with
    | [] => (.ok none, feed)
    | byte :: pending => (.ok (some byte), { feed with pending, consumed := feed.consumed + 1 })

/-- What becomes of a byte that is not written. -/
inductive Overflow where
  /-- Writing it fails. -/
  | refuse
  /-- It is not taken. -/
  | stall
  /-- It is taken and lost. -/
  | drop
deriving DecidableEq, Repr

/-- The output: the bytes written so far.  It may be set to be full from a certain number on; as long as
it is not, it may still be set for every single byte whether that is written. -/
structure Sink where
  written : Array UInt8 := #[]
  limit : Option (Overflow × Nat) := none
  /-- The number of bytes taken so far, written or lost. -/
  taken : Nat := 0
  /-- What becomes of the byte that comes after so many others have been taken. -/
  fate : Nat → Option Overflow := fun _ => none

/-- What happens to the next byte: `none` if it is to be written. -/
def Sink.overflow? (sink : Sink) : Option Overflow :=
  match sink.limit with
  | none => sink.fate sink.taken
  | some (overflow, capacity) =>
    if sink.written.size < capacity then sink.fate sink.taken else some overflow

/-- Writes a byte. -/
def Sink.write (sink : Sink) (byte : UInt8) : Except IoCause Unit × Sink :=
  match sink.overflow? with
  | none => (.ok (), { sink with written := sink.written.push byte, taken := sink.taken + 1 })
  | some .refuse => (.error .unwritable, sink)
  | some .stall => (.error .shortWrite, sink)
  | some .drop => (.ok (), { sink with taken := sink.taken + 1 })

/-! ## Faults -/

/-- Why an instruction cannot be performed. -/
inductive Fault where
  /-- It needs a cell that the tape does not have. -/
  | outOfBounds (e : OutOfBounds)
  /-- It needs input, and there is none left. -/
  | endOfInput
  /-- A byte stream failed. -/
  | io (cause : IoCause)
  /-- It is not an instruction that a machine can perform. -/
  | notExecutable (action : Action)
deriving DecidableEq, Repr

/-- The wording of a fault. -/
def Fault.message : Fault → String
  | .outOfBounds e => e.message
  | .endOfInput => "detected EOF"
  | .io cause => "IO error: " ++ cause.message
  | .notExecutable action => "not an instruction: " ++ action.render

/-! ## Performing instructions -/

/-- What a machine does after an instruction. -/
inductive Next where
  /-- Go on with the following instruction. -/
  | advance
  /-- Run the body of a loop, and then come back to the loop. -/
  | enter (body : Program)
deriving DecidableEq, Repr

/-- A machine: pointer, tape, input and output. -/
structure Machine where
  pointer : Int
  memory : Memory
  feed : Feed
  sink : Sink

namespace Machine

/-- A machine at the start of a run. -/
def init (policy : Policy) (feed : Feed) (sink : Sink) : Machine :=
  { pointer := 0, memory := Memory.blank policy, feed, sink }

/-- Writes the current cell.  The cell is made room for before the byte goes out. -/
def performOutput : Machine → Except Fault Next × Machine
  | ⟨pointer, memory, feed, sink⟩ =>
    match memory.get pointer with
    | (.error e, memory) => (.error (.outOfBounds e), ⟨pointer, memory, feed, sink⟩)
    | (.ok cell, memory) =>
      match sink.write cell with
      | (.error cause, sink) => (.error (.io cause), ⟨pointer, memory, feed, sink⟩)
      | (.ok (), sink) => (.ok .advance, ⟨pointer, memory, feed, sink⟩)

/-- Reads into the current cell.  The cell is made room for before any input is consumed. -/
def performInput : Machine → Except Fault Next × Machine
  | ⟨pointer, memory, feed, sink⟩ =>
    match memory.get pointer with
    | (.error e, memory) => (.error (.outOfBounds e), ⟨pointer, memory, feed, sink⟩)
    | (.ok _, memory) =>
      match feed.read with
      | (.error cause, feed) => (.error (.io cause), ⟨pointer, memory, feed, sink⟩)
      | (.ok none, feed) => (.error .endOfInput, ⟨pointer, memory, feed, sink⟩)
      | (.ok (some byte), feed) =>
        match memory.set pointer byte.toNat with
        | (.error e, memory) => (.error (.outOfBounds e), ⟨pointer, memory, feed, sink⟩)
        | (.ok (), memory) => (.ok .advance, ⟨pointer, memory, feed, sink⟩)

/-- Performs a single action. -/
def performAction : Machine → Action → Except Fault Next × Machine
  | machine, .move n => (.ok .advance, { machine with pointer := machine.pointer + n })
  | ⟨pointer, memory, feed, sink⟩, .add n =>
    match memory.add pointer n with
    | (.error e, memory) => (.error (.outOfBounds e), ⟨pointer, memory, feed, sink⟩)
    | (.ok (), memory) => (.ok .advance, ⟨pointer, memory, feed, sink⟩)
  | machine, .output => machine.performOutput
  | machine, .input => machine.performInput
  | machine, .nop => (.error (.notExecutable .nop), machine)

/-- Tests the condition of a loop. -/
def performLoop : Machine → Program → Except Fault Next × Machine
  | ⟨pointer, memory, feed, sink⟩, body =>
    match memory.get pointer with
    | (.error e, memory) => (.error (.outOfBounds e), ⟨pointer, memory, feed, sink⟩)
    | (.ok cell, memory) =>
      (.ok (if cell = 0 then .advance else .enter body), ⟨pointer, memory, feed, sink⟩)

/-- Performs one instruction. -/
def perform (machine : Machine) : Instr → Except Fault Next × Machine
  | .act action => machine.performAction action
  | .loop body => machine.performLoop body

/-! ## Looking at cells from outside -/

/-- The contents of a cell, or `none` for an address that the tape does not have. -/
def cell? (machine : Machine) (address : Int) : Option UInt8 :=
  if machine.memory.inBounds address then some (machine.memory.peek address) else none

/-- Changes a cell, and says whether the tape has it. -/
def setCell (machine : Machine) (address value : Int) : Bool × Machine :=
  match machine with
  | ⟨pointer, memory, feed, sink⟩ =>
    if memory.inBounds address then
      match memory.set address value with
      | (_, memory) => (true, ⟨pointer, memory, feed, sink⟩)
    else (false, ⟨pointer, memory, feed, sink⟩)

end Machine

end TapeLang
