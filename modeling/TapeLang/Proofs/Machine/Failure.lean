import TapeLang.Proofs.Machine.Widening

/-!
# A step that fails

An instruction touches the tape, then a stream, then the tape again, and can fail at each of them.
Whichever it is, nothing of the failure shows afterwards, and trying again fails in the same way.  Only
room on the tape may have been made, once: the second attempt finds it there.

* `Memory.reserve_cases` — what making room can do, on any memory: refuse and change nothing, or keep
  every cell and have nothing left to do the next time;
* `Machine.Balks` — the instruction fails, and what that leaves of the machine;
* `Machine.balks_of_perform` — every failure is of this kind, by the instruction that failed;
* `Stepper.session_steps_of_balking` — one failed step that repeats itself, repeated any number of times;
* **`Stepper.failed_step_repeats`** — one instruction on any machine, and a stepper in any state that a
  session can reach.
-/

namespace TapeLang

/-! ## Making room -/

namespace Memory

/-- Room is refused for good, or made for good. -/
lemma reserve_cases (memory : Memory) (address : Int) :
    memory.reserve address = (.error ⟨address⟩, memory) ∨
    ∃ roomy : Memory, memory.reserve address = (.ok (), roomy) ∧ roomy.peek = memory.peek ∧
      roomy.reserve address = (.ok (), roomy) := by
  cases address with
  | ofNat index =>
    by_cases hstored : index < memory.right.size
    · exact .inr ⟨memory, by simp [reserve, hstored], rfl, by simp [reserve, hstored]⟩
    · have hroom : index < (grow memory.right (index + 1)).size := le_size_grow memory.right (index + 1)
      cases hpolicy : memory.policy with
      | fixed size => exact .inl (by simp [reserve, hstored, hpolicy])
      | rightUnbounded | bothUnbounded =>
        refine .inr ⟨_, ?_, memory.peek_growRight (index + 1), by simp only [reserve, if_pos hroom]⟩
        simp only [reserve, if_neg hstored, hpolicy]
  | negSucc index =>
    cases hpolicy : memory.policy with
    | fixed size => exact .inl (by simp [reserve, hpolicy])
    | rightUnbounded => exact .inl (by simp [reserve, hpolicy])
    | bothUnbounded =>
      by_cases hstored : index < memory.left.size
      · exact .inr ⟨memory, by simp [reserve, hstored, hpolicy], rfl, by simp [reserve, hstored, hpolicy]⟩
      · have hroom : index < (grow memory.left (index + 1)).size := le_size_grow memory.left (index + 1)
        refine .inr ⟨_, ?_, memory.peek_growLeft (index + 1), by simp only [reserve, hpolicy, if_pos hroom]⟩
        simp only [reserve, hpolicy, if_neg hstored]

/-- Reading a cell is refused for good; or it can be repeated, and the cell can be written. -/
lemma get_cases (memory : Memory) (address : Int) :
    memory.get address = (.error ⟨address⟩, memory) ∨
    ∃ roomy : Memory, memory.get address = (.ok (memory.peek address), roomy) ∧
      roomy.peek = memory.peek ∧ roomy.get address = (.ok (memory.peek address), roomy) ∧
      ∀ value, ∃ after, roomy.set address value = (.ok (), after) := by
  obtain hrefused | ⟨roomy, hreserve, hpeek, hagain⟩ := memory.reserve_cases address
  · exact .inl (by simp only [get, hrefused])
  · refine .inr ⟨roomy, by simp only [get, hreserve, hpeek], hpeek, ?_, ?_⟩
    · simp only [get, hagain, hpeek]
    · intro value
      exact ⟨roomy.store address (cellOf value), by simp only [set, hagain]⟩

lemma add_error {memory after : Memory} {address value : Int} {e : OutOfBounds}
    (h : memory.add address value = (.error e, after)) : after = memory := by
  obtain hrefused | ⟨roomy, hreserve, -, -⟩ := memory.reserve_cases address
  · simp only [add, hrefused, Prod.mk.injEq] at h
    exact h.2.symm
  · simp [add, hreserve] at h

end Memory

/-! ## One instruction -/

namespace Machine

/-- The instruction fails on the machine and leaves another one that looks the same, or the very same
if an address was refused; on what is left it fails again, and changes nothing at all. -/
structure Balks (machine : Machine) (instr : Instr) (fault : Fault) (after : Machine) : Prop where
  alike : machine.Alike after
  eq_of_refused : ∀ e, fault = .outOfBounds e → after = machine
  again : after.perform instr = (.error fault, after)

variable {machine after : Machine} {fault : Fault}

/-- A failure that leaves the machine untouched. -/
lemma balks_of_untouched {instr : Instr} (h : machine.perform instr = (.error fault, machine)) :
    machine.Balks instr fault machine :=
  ⟨⟨rfl, fun _ => rfl, rfl, rfl⟩, fun _ _ => rfl, h⟩

/-- A failure that left room on the tape and nothing else. -/
lemma balks_of_roomy {instr : Instr} {roomy : Memory} (hpeek : roomy.peek = machine.memory.peek)
    (hfault : ∀ e, fault ≠ .outOfBounds e)
    (hagain : ({ machine with memory := roomy } : Machine).perform instr =
      (.error fault, { machine with memory := roomy })) :
    machine.Balks instr fault { machine with memory := roomy } :=
  ⟨⟨rfl, fun _ => by rw [hpeek], rfl, rfl⟩, fun e he => absurd he (hfault e), hagain⟩

lemma balks_of_performOutput (h : machine.performOutput = (.error fault, after)) :
    machine.Balks (.act .output) fault after := by
  obtain ⟨pointer, memory, feed, sink⟩ := machine
  obtain hrefused | ⟨roomy, hget, hpeek, hagain, -⟩ := memory.get_cases pointer
  · simp only [performOutput, hrefused, Prod.mk.injEq, Except.error.injEq] at h
    obtain ⟨rfl, rfl⟩ := h
    exact balks_of_untouched (by simp only [perform, performAction, performOutput, hrefused])
  · rcases hwrite : sink.write (memory.peek pointer) with ⟨cause | ⟨⟩, left⟩
    · obtain rfl : left = sink := Sink.write_error hwrite
      simp only [performOutput, hget, hwrite, Prod.mk.injEq, Except.error.injEq] at h
      obtain ⟨rfl, rfl⟩ := h
      refine balks_of_roomy hpeek (by simp) ?_
      simp only [perform, performAction, performOutput, hagain, hwrite]
    · simp [performOutput, hget, hwrite] at h

/-- A byte that was read can always be stored, so input fails before it has consumed anything. -/
lemma balks_of_performInput (h : machine.performInput = (.error fault, after)) :
    machine.Balks (.act .input) fault after := by
  obtain ⟨pointer, memory, feed, sink⟩ := machine
  obtain hrefused | ⟨roomy, hget, hpeek, hagain, hset⟩ := memory.get_cases pointer
  · simp only [performInput, hrefused, Prod.mk.injEq, Except.error.injEq] at h
    obtain ⟨rfl, rfl⟩ := h
    exact balks_of_untouched (by simp only [perform, performAction, performInput, hrefused])
  · rcases hread : feed.read with ⟨cause | _ | byte, left⟩
    · obtain rfl : left = feed := Feed.read_error hread
      simp only [performInput, hget, hread, Prod.mk.injEq, Except.error.injEq] at h
      obtain ⟨rfl, rfl⟩ := h
      refine balks_of_roomy hpeek (by simp) ?_
      simp only [perform, performAction, performInput, hagain, hread]
    · obtain rfl : left = feed := Feed.read_none hread
      simp only [performInput, hget, hread, Prod.mk.injEq, Except.error.injEq] at h
      obtain ⟨rfl, rfl⟩ := h
      refine balks_of_roomy hpeek (by simp) ?_
      simp only [perform, performAction, performInput, hagain, hread]
    · obtain ⟨stored, hstored⟩ := hset byte.toNat
      simp [performInput, hget, hread, hstored] at h

lemma balks_of_performAction {action : Action} (h : machine.performAction action = (.error fault, after)) :
    machine.Balks (.act action) fault after := by
  cases action with
  | move n => simp [performAction] at h
  | add n =>
    obtain ⟨pointer, memory, feed, sink⟩ := machine
    rcases hadd : memory.add pointer n with ⟨e | ⟨⟩, left⟩
    · obtain rfl : left = memory := Memory.add_error hadd
      simp only [performAction, hadd, Prod.mk.injEq, Except.error.injEq] at h
      obtain ⟨rfl, rfl⟩ := h
      exact balks_of_untouched (by simp only [perform, performAction, hadd])
    · simp [performAction, hadd] at h
  | output => exact balks_of_performOutput h
  | input => exact balks_of_performInput h
  | nop =>
    simp only [performAction, Prod.mk.injEq, Except.error.injEq] at h
    obtain ⟨rfl, rfl⟩ := h
    exact balks_of_untouched rfl

/-- **An instruction that fails.**  Nothing of it shows, and it fails again. -/
lemma balks_of_perform {instr : Instr} (h : machine.perform instr = (.error fault, after)) :
    machine.Balks instr fault after := by
  cases instr with
  | act action => exact balks_of_performAction h
  | loop body =>
    obtain ⟨pointer, memory, feed, sink⟩ := machine
    obtain hrefused | ⟨roomy, hget, -, -, -⟩ := memory.get_cases pointer
    · simp only [perform, performLoop, hrefused, Prod.mk.injEq, Except.error.injEq] at h
      obtain ⟨rfl, rfl⟩ := h
      exact balks_of_untouched (by simp only [perform, performLoop, hrefused])
    · simp [perform, performLoop, hget] at h

end Machine

/-! ## Steps -/

namespace Stepper

variable {program : Program} {stepper last : Stepper} {e : StepError}

/-- A step fails with an instruction of the program that fails on the machine. -/
lemma OnTrack.balks_of_step (h : OnTrack program stepper) (hstep : stepper.step = (.error e, last)) :
    ∃ path frame outer fault, stepper.path = some path ∧ Located program path frame outer ∧
      e = .fault fault ∧ last = { stepper with machine := last.machine } ∧
      stepper.machine.Balks frame.current fault last.machine := by
  obtain ⟨-, hidle⟩ | ⟨path, frame, outer, fault, after, hpath, hlocated, hperform, hfails⟩ |
    ⟨report, after, place, -, -, hok, -⟩ := h.step_cases
  · simp [hidle] at hstep
  · rw [hfails, Prod.mk.injEq, Except.error.injEq] at hstep
    obtain ⟨rfl, rfl⟩ := hstep
    exact ⟨path, frame, outer, fault, hpath, hlocated, rfl, rfl, Machine.balks_of_perform hperform⟩
  · simp [hok] at hstep

/-- The step after one that failed fails again, and changes nothing. -/
lemma OnTrack.step_again (h : OnTrack program stepper) (hstep : stepper.step = (.error e, last)) :
    last.step = (.error e, last) := by
  obtain ⟨path, frame, outer, fault, hpath, hlocated, rfl, hlast, hbalks⟩ := h.balks_of_step hstep
  rcases stepper with ⟨own, machine, place, steps⟩
  rcases last with ⟨own', machine', place', steps'⟩
  obtain rfl : own = program := h.program_eq
  obtain rfl : place = some path := hpath
  simp only [Stepper.mk.injEq, true_and] at hlast
  obtain ⟨rfl, rfl, rfl⟩ := hlast
  exact step_of_error hlocated hbalks.again steps'

lemma session_steps_of_balking (h : last.step = (.error e, last)) (count : Nat) :
    last.session (List.replicate count .step) = (List.replicate count (.stepped (.error e)), last) := by
  induction count with
  | zero => rfl
  | succ count ih =>
    have hcall : last.call .step = (.stepped (.error e), last) := by simp only [call, h]
    rw [List.replicate_succ, List.replicate_succ, session_cons, hcall, ih]

/-- **A failed step changes nothing and repeats itself.**  An instruction that fails, on whatever machine,
leaves pointer, cells, input and output as they were, and if an address was refused the buffers too.  If a
step fails in a state that a session can reach, the place and the count of steps stay as well, and as long
as nothing but steps is asked and the streams do not change, every further step fails for the same reason
and leaves everything as it is, the buffers included. -/
theorem failed_step_repeats :
    (∀ (machine after : Machine) (instr : Instr) (fault : Fault),
      machine.perform instr = (.error fault, after) →
        machine.Alike after ∧ ∀ refused, fault = .outOfBounds refused → after = machine) ∧
    ∀ (program : Program) (machine : Machine) (calls : List StepperCall) (stepper last : Stepper)
      (e : StepError), ((init program machine).session calls).2 = stepper →
      stepper.step = (.error e, last) →
        ∃ fault, e = .fault fault ∧
          last.program = stepper.program ∧ last.path = stepper.path ∧ last.steps = stepper.steps ∧
          stepper.machine.Alike last.machine ∧
          (∀ refused, fault = .outOfBounds refused → last = stepper) ∧
          ∀ count, last.session (List.replicate count .step) =
            (List.replicate count (.stepped (.error e)), last) := by
  constructor
  · intro machine after instr fault hfails
    have hbalks := Machine.balks_of_perform hfails
    exact ⟨hbalks.alike, hbalks.eq_of_refused⟩
  · rintro program machine calls _ last e rfl hstep
    have htrack := (onTrack_init program machine).session calls
    obtain ⟨path, frame, outer, fault, -, -, hfault, hlast, hbalks⟩ := htrack.balks_of_step hstep
    refine ⟨fault, hfault, ?_, ?_, ?_, hbalks.alike, ?_, ?_⟩
    · rw [hlast]
    · rw [hlast]
    · rw [hlast]
    · intro refused hrefused
      rw [hlast, hbalks.eq_of_refused refused hrefused]
    · exact session_steps_of_balking (htrack.step_again hstep)

/-- The program `>.` writes a cell for which no room was made yet to an output that takes nothing: the
step makes room for 256 cells, and no step after it makes any more. -/
theorem refused_output_repeats :
    ∃ last : Stepper,
      (((init [.act (.move 1), .act .output]
          (.init .rightUnbounded { pending := [] } { limit := some (.stall, 0) })).session
        [.step]).2).step = (.error (.fault (.io .shortWrite)), last) ∧
      last.machine.memory.right.size = 256 ∧
      ∀ count, last.session (List.replicate count .step) =
        (List.replicate count (.stepped (.error (.fault (.io .shortWrite)))), last) := by
  obtain ⟨-, hsteps⟩ := failed_step_repeats
  have hsize : (grow #[] 2).size = 256 := by simp [grow, grownCapacity, leastGrowth]
  refine ⟨_, rfl, hsize, ?_⟩
  obtain ⟨fault, -, -, -, -, -, -, hagain⟩ := hsteps [.act (.move 1), .act .output]
    (.init .rightUnbounded { pending := [] } { limit := some (.stall, 0) }) [.step] _ _ _ rfl rfl
  exact hagain

end Stepper

end TapeLang
