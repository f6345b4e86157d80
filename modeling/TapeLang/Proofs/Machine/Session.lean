import TapeLang.Machine.Trace
import TapeLang.Proofs.Machine.Stepping

/-!
# A stepper in use

Whoever steps through a program may look at cells, take snapshots and change cells between any two
steps.  The streams are not under the stepper's control either: more input may arrive, and a stream that
failed may recover.  Which way the path goes next depends on the contents of a cell, so it is not in the
stepper's own hands; still it always leads to an instruction.

* `Program.Selects`: every number of the path but the last selects a loop, and the last one is in range.
* `Program.Executable`: the program holds no instruction that a machine refuses.
* `Feed.turn`, `Sink.turn`: a stream that goes on differently.
* `StepperCall`, `Stepper.call`, `Stepper.session`: using a stepper, in any order of calls.
* `Stepper.OnTrack`: the invariant.  `Stepper.OnTrack.step_cases` says once what a step can do: nothing
  at all, fail and leave the place, or go on to a place on the way; what a session keeps follows from it.
* **`Stepper.session_keeps_place`**: the place of a stepper in every state of every session, and which
  steps its count is of.
-/

namespace TapeLang

/-! ## Paths that select an instruction -/

/-- The path leads to an instruction of the program. -/
def Program.Selects : Program → Path → Prop
  | _, [] => False
  | program, [index] => 0 ≤ index ∧ index < (program.length : Int)
  | program, index :: next :: deeper =>
    0 ≤ index ∧ ∃ body, program[index.toNat]? = some (.loop body) ∧ Program.Selects body (next :: deeper)

lemma Located.selects {program : Program} {path : Path} {frame : Frame} {outer : Agenda}
    (h : Located program path frame outer) : program.Selects path := by
  induction h with
  | @here program more instr index hdrop =>
    have hlength := Program.length_of_drop_eq_cons hdrop
    rw [Program.Selects]
    omega
  | @inside program body more index path frame outer hdrop deeper ih =>
    obtain ⟨next, rest, rfl⟩ := List.exists_cons_of_ne_nil deeper.path_ne_nil
    refine ⟨by omega, body, ?_, ih⟩
    rw [Int.toNat_natCast, Program.getElem?_of_drop_eq_cons hdrop]

/-! ## Programs that a machine can execute -/

/-- A machine can perform the instruction, and all those inside it. -/
inductive Instr.Executable : Instr → Prop
  | act {action : Action} (haction : action ≠ .nop) : Executable (.act action)
  | loop {body : List Instr} (hbody : ∀ instr ∈ body, Executable instr) : Executable (.loop body)

def Program.Executable (program : Program) : Prop :=
  ∀ instr ∈ program, instr.Executable

lemma Program.Executable.of_drop {program more : Program} {instr : Instr} {index : Nat}
    (h : program.Executable) (hdrop : program.drop index = instr :: more) : instr.Executable := by
  apply h
  apply List.mem_of_mem_drop (i := index)
  rw [hdrop]
  exact List.mem_cons_self

/-- A path through an executable program leads to an executable instruction. -/
lemma Located.executable {program : Program} {path : Path} {frame : Frame} {outer : Agenda}
    (h : Located program path frame outer) (hprogram : program.Executable) :
    frame.current.Executable := by
  induction h with
  | here hdrop => exact hprogram.of_drop hdrop
  | inside hdrop deeper ih =>
    cases hprogram.of_drop hdrop with
    | loop hbody => exact ih hbody

lemma Machine.ne_notExecutable_of_perform {machine after : Machine} {instr : Instr} {fault : Fault}
    (hinstr : instr.Executable) (h : machine.perform instr = (.error fault, after)) (action : Action) :
    fault ≠ .notExecutable action := by
  rintro rfl
  cases hinstr with
  | @act act hact =>
    cases act with
    | move n => simp [perform, performAction] at h
    | add n =>
      simp only [perform, performAction] at h
      split at h <;> simp at h
    | output =>
      simp only [perform, performAction, performOutput] at h
      split at h
      · simp at h
      · split at h <;> simp at h
    | input =>
      simp only [perform, performAction, performInput] at h
      split at h
      · simp at h
      · split at h
        · simp at h
        · simp at h
        · split at h <;> simp at h
    | nop => exact hact rfl
  | loop hbody =>
    simp only [perform, performLoop] at h
    split at h <;> simp at h

/-! ## Using a stepper -/

/-- The input goes on differently; what it has delivered stays delivered. -/
def Feed.turn (feed : Feed) (pending : List UInt8) (failsAfter : Option Nat) : Feed :=
  { feed with pending, failsAfter }

/-- The output goes on differently; what it holds stays there. -/
def Sink.turn (sink : Sink) (limit : Option (Overflow × Nat)) (fate : Nat → Option Overflow) : Sink :=
  { sink with limit, fate }

/-- What can be asked of a stepper, and what can happen to its streams in the meantime.  A step tries each
stream once at most, so with a turn before every step they may give any outcomes one after another. -/
inductive StepperCall where
  | step
  | setCell (address value : Int)
  | cell (address : Int)
  | window (start stop : Int)
  | snapshot (radius : Int)
  | turnFeed (pending : List UInt8) (failsAfter : Option Nat)
  | turnSink (limit : Option (Overflow × Nat)) (fate : Nat → Option Overflow)

inductive StepperAnswer where
  | stepped (result : Except StepError StepReport)
  | changed (found : Bool)
  | cell (contents : Option UInt8)
  | cells (contents : List UInt8)
  | shown (frame : Except PathError (Option Snapshot))
  | turned

namespace StepperAnswer

/-- A step that did not fail, whether there was anything left to do or not. -/
def succeeded : StepperAnswer → Bool
  | .stepped (.ok _) => true
  | _ => false

/-- A step that performed an instruction. -/
def performed : StepperAnswer → Bool
  | .stepped (.ok .idle) => false
  | .stepped (.ok _) => true
  | _ => false

end StepperAnswer

namespace Stepper

def call (stepper : Stepper) : StepperCall → StepperAnswer × Stepper
  | .step =>
    match stepper.step with
    | (result, stepper) => (.stepped result, stepper)
  | .setCell address value =>
    match stepper.setCell address value with
    | (found, stepper) => (.changed found, stepper)
  | .cell address => (.cell (stepper.cell? address), stepper)
  | .window start stop => (.cells (stepper.machine.memory.window start stop), stepper)
  | .snapshot radius => (.shown (stepper.snapshot radius), stepper)
  | .turnFeed pending failsAfter =>
    let feed := stepper.machine.feed.turn pending failsAfter
    (.turned, { stepper with machine := { stepper.machine with feed } })
  | .turnSink limit fate =>
    let sink := stepper.machine.sink.turn limit fate
    (.turned, { stepper with machine := { stepper.machine with sink } })

/-- Makes one call after the other and collects the answers. -/
def session (stepper : Stepper) : List StepperCall → List StepperAnswer × Stepper
  | [] => ([], stepper)
  | first :: more =>
    match stepper.call first with
    | (answer, stepper) =>
      match stepper.session more with
      | (answers, stepper) => (answer :: answers, stepper)

lemma session_cons (stepper : Stepper) (first : StepperCall) (more : List StepperCall) :
    stepper.session (first :: more) =
      ((stepper.call first).1 :: ((stepper.call first).2.session more).1,
        ((stepper.call first).2.session more).2) := rfl

/-! ## What a step can do -/

/-- The stepper is somewhere on its way through the program, or at its end. -/
structure OnTrack (program : Program) (stepper : Stepper) : Prop where
  program_eq : stepper.program = program
  tracks : ∃ agenda, Tracks program stepper.path agenda

variable {program : Program} {stepper : Stepper}

lemma onTrack_init (program : Program) (machine : Machine) :
    OnTrack program (init program machine) :=
  ⟨rfl, _, tracks_firstPath program⟩

lemma OnTrack.located (h : OnTrack program stepper) {path : Path} (hpath : stepper.path = some path) :
    ∃ frame outer, Located program path frame outer := by
  obtain ⟨agenda, htracks⟩ := h.tracks
  rw [hpath] at htracks
  obtain ⟨frame, outer, -, hlocated⟩ := htracks
  exact ⟨frame, outer, hlocated⟩

lemma step_of_ended (h : stepper.path = none) : stepper.step = (.ok .idle, stepper) := by
  rcases stepper with ⟨program, machine, place, steps⟩
  subst h
  rfl

lemma step_ne_idle {path : Path} (h : stepper.path = some path) : stepper.step.1 ≠ .ok .idle := by
  rcases stepper with ⟨program, machine, place, steps⟩
  subst h
  simp only [step]
  split
  · simp
  · split
    · simp
    · simp
    · simp
    · split <;> simp

/-- **What a step can do.**  At the end of the program it does nothing.  Before it, the instruction at
the path is performed: if that fails, the stepper stays where it is and only its machine may have
changed; if not, the step counts and leads to a place on the way. -/
theorem OnTrack.step_cases (h : OnTrack program stepper) :
    (stepper.path = none ∧ stepper.step = (.ok .idle, stepper)) ∨
    (∃ path frame outer fault after, stepper.path = some path ∧ Located program path frame outer ∧
      stepper.machine.perform frame.current = (.error fault, after) ∧
      stepper.step = (.error (.fault fault), { stepper with machine := after })) ∨
    ∃ report after place, stepper.path ≠ none ∧ report ≠ .idle ∧
      stepper.step =
        (.ok report, { stepper with machine := after, path := place, steps := stepper.steps + 1 }) ∧
      OnTrack program (stepper.step).2 := by
  cases hpath : stepper.path with
  | none => exact .inl ⟨rfl, step_of_ended hpath⟩
  | some path =>
    obtain ⟨frame, outer, hlocated⟩ := h.located hpath
    have hnot_idle := step_ne_idle hpath
    rcases stepper with ⟨own, machine, place, steps⟩
    obtain rfl : own = program := h.program_eq
    obtain rfl : place = some path := hpath
    rcases hperform : machine.perform frame.current with ⟨fault | next, after⟩
    · exact .inr (.inl ⟨path, frame, outer, fault, after, rfl, hlocated, hperform,
        step_of_error hlocated hperform steps⟩)
    · obtain ⟨report, place, hstep, htracks⟩ := step_of_ok hlocated hperform steps
      refine .inr (.inr ⟨report, after, place, by simp, ?_, hstep, ?_⟩)
      · rintro rfl
        rw [hstep] at hnot_idle
        exact hnot_idle rfl
      · rw [hstep]
        exact ⟨rfl, _, htracks⟩

/-! ## What a call keeps -/

/-- Whatever else is asked of a stepper or happens to it, its place and its count stay as they are, and no
step is made. -/
lemma call_of_ne_step {call : StepperCall} (h : call ≠ .step) (stepper : Stepper) :
    ∃ answer after, stepper.call call = (answer, { stepper with machine := after }) ∧
      answer.succeeded = false ∧ answer.performed = false := by
  rcases stepper with ⟨program, machine, place, steps⟩
  cases call with
  | step => exact absurd rfl h
  | setCell | cell | window | snapshot | turnFeed | turnSink => exact ⟨_, _, rfl, rfl, rfl⟩

lemma OnTrack.of_machine (h : OnTrack program stepper) (machine : Machine) :
    OnTrack program { stepper with machine } :=
  ⟨h.program_eq, h.tracks⟩

lemma OnTrack.call (h : OnTrack program stepper) (call : StepperCall) :
    OnTrack program (stepper.call call).2 := by
  by_cases hcall : call = .step
  · subst hcall
    change OnTrack program stepper.step.2
    obtain ⟨-, hstep⟩ | ⟨path, frame, outer, fault, after, -, -, -, hstep⟩ |
      ⟨report, after, place, -, -, -, hlater⟩ := h.step_cases
    · rw [hstep]
      exact h
    · rw [hstep]
      exact h.of_machine after
    · exact hlater
  · obtain ⟨answer, after, hkept, -⟩ := call_of_ne_step hcall stepper
    rw [hkept]
    exact h.of_machine after

/-- Exactly the calls that perform an instruction are counted. -/
lemma OnTrack.steps_call (h : OnTrack program stepper) (call : StepperCall) :
    (stepper.call call).2.steps = stepper.steps + (stepper.call call).1.performed.toNat := by
  by_cases hcall : call = .step
  · subst hcall
    change stepper.step.2.steps = stepper.steps + (StepperAnswer.stepped stepper.step.1).performed.toNat
    obtain ⟨-, hstep⟩ | ⟨path, frame, outer, fault, after, -, -, -, hstep⟩ |
      ⟨report, after, place, -, hreport, hstep, -⟩ := h.step_cases
    · rw [hstep]
      rfl
    · rw [hstep]
      rfl
    · rw [hstep]
      cases report with
      | idle => exact absurd rfl hreport
      | performed | entered => rfl
  · obtain ⟨answer, after, hkept, -, hperformed⟩ := call_of_ne_step hcall stepper
    rw [hkept, hperformed]
    rfl

/-- A program that has ended stays so. -/
lemma path_call_of_ended (h : stepper.path = none) (call : StepperCall) :
    (stepper.call call).2.path = none := by
  by_cases hcall : call = .step
  · subst hcall
    change stepper.step.2.path = none
    rw [step_of_ended h]
    exact h
  · obtain ⟨answer, after, hkept, -⟩ := call_of_ne_step hcall stepper
    rw [hkept]
    exact h

/-- A step before the end performs an instruction or fails. -/
lemma performed_call_of_path {path : Path} (h : stepper.path = some path) (call : StepperCall) :
    (stepper.call call).1.performed = (stepper.call call).1.succeeded := by
  by_cases hcall : call = .step
  · subst hcall
    change (StepperAnswer.stepped stepper.step.1).performed =
      (StepperAnswer.stepped stepper.step.1).succeeded
    have hnot_idle := step_ne_idle h
    rcases hresult : stepper.step.1 with e | _ | _ | path
    · rfl
    · exact absurd hresult hnot_idle
    · rfl
    · rfl
  · obtain ⟨answer, after, hkept, hsucceeded, hperformed⟩ := call_of_ne_step hcall stepper
    rw [hkept, hsucceeded, hperformed]

/-! ## What a session keeps -/

lemma OnTrack.session (h : OnTrack program stepper) (calls : List StepperCall) :
    OnTrack program (stepper.session calls).2 := by
  induction calls generalizing stepper with
  | nil => exact h
  | cons first more ih =>
    rw [session_cons]
    exact ih (h.call first)

lemma OnTrack.steps_session (h : OnTrack program stepper) (calls : List StepperCall) :
    (stepper.session calls).2.steps =
      stepper.steps + (stepper.session calls).1.countP StepperAnswer.performed := by
  induction calls generalizing stepper with
  | nil => rfl
  | cons first more ih =>
    rw [session_cons]
    simp only [List.countP_cons]
    rw [ih (h.call first), h.steps_call first]
    cases (stepper.call first).1.performed with
    | false => simp
    | true =>
      simp only [Bool.toNat_true, if_true]
      omega

lemma path_session_of_ended (h : stepper.path = none) (calls : List StepperCall) :
    (stepper.session calls).2.path = none := by
  induction calls generalizing stepper with
  | nil => exact h
  | cons first more ih =>
    rw [session_cons]
    exact ih (path_call_of_ended h first)

/-- As long as the program has not ended, every step that did not fail has performed an instruction. -/
lemma countP_session_of_running (calls : List StepperCall)
    (h : (stepper.session calls).2.path ≠ none) :
    (stepper.session calls).1.countP StepperAnswer.performed =
      (stepper.session calls).1.countP StepperAnswer.succeeded := by
  induction calls generalizing stepper with
  | nil => rfl
  | cons first more ih =>
    cases hpath : stepper.path with
    | none => exact absurd (path_session_of_ended hpath (first :: more)) h
    | some path =>
      rw [session_cons] at h ⊢
      simp only [List.countP_cons]
      rw [ih h, performed_call_of_path hpath first]

/-! ## The place of a stepper -/

/-- What is at the path can be looked up, also for a snapshot. -/
lemma OnTrack.current (h : OnTrack program stepper) {path : Path} (hpath : stepper.path = some path) :
    program.Selects path ∧ ∃ instr, stepper.current? = .ok (some instr) ∧
      ∀ radius, ∃ frame, stepper.snapshot radius = .ok (some frame) ∧
        frame.path = path ∧ frame.instr = instr ∧ frame.steps = stepper.steps := by
  obtain ⟨frame, outer, hlocated⟩ := h.located hpath
  have hinstr := hlocated.instrAt
  rw [← h.program_eq] at hinstr
  refine ⟨hlocated.selects, frame.current, ?_, fun radius => ?_⟩
  · rw [current?, hpath]
    simp only [hinstr]
    rfl
  · rw [snapshot, hpath]
    simp only [hinstr]
    exact ⟨_, rfl, rfl, rfl, rfl⟩

lemma step_eq_idle_iff (stepper : Stepper) : stepper.step.1 = .ok .idle ↔ stepper.path = none := by
  cases hpath : stepper.path with
  | none => simp [step_of_ended hpath]
  | some path => simp [step_ne_idle hpath]

/-- **A stepper always knows its place.**  In every state that a session on an executable program can
reach, whatever its streams do, the path selects an instruction or the program has ended; the instruction
and a snapshot can be had; a step fails only by a fault of the machine, and not for want of an instruction
that the machine can perform; once the program has ended it stays so, and a step does nothing and says so.
The count of steps is that of the steps that performed an instruction: that neither failed nor found the
program at its end.  Before the end these are all that did not fail. -/
theorem session_keeps_place (program : Program) (hprogram : program.Executable) (machine : Machine)
    (calls : List StepperCall) :
    ∃ answers stepper, (init program machine).session calls = (answers, stepper) ∧
      (∀ path, stepper.path = some path →
        program.Selects path ∧ ∃ instr, stepper.current? = .ok (some instr) ∧
          ∀ radius, ∃ frame, stepper.snapshot radius = .ok (some frame) ∧
            frame.path = path ∧ frame.instr = instr ∧ frame.steps = stepper.steps) ∧
      (∀ e, stepper.step.1 = .error e →
        ∃ fault, e = .fault fault ∧ ∀ action, fault ≠ .notExecutable action) ∧
      (stepper.path = none →
        stepper.current? = .ok none ∧ (∀ radius, stepper.snapshot radius = .ok none) ∧
          stepper.step = (.ok .idle, stepper) ∧ ∀ more, (stepper.session more).2.path = none) ∧
      (stepper.step.1 = .ok .idle ↔ stepper.path = none) ∧
      stepper.steps = answers.countP StepperAnswer.performed ∧
      (stepper.path ≠ none → stepper.steps = answers.countP StepperAnswer.succeeded) := by
  have hstart := onTrack_init program machine
  have hlast := hstart.session calls
  have hsteps : ((init program machine).session calls).2.steps =
      ((init program machine).session calls).1.countP StepperAnswer.performed := by
    rw [hstart.steps_session calls]
    exact Nat.zero_add _
  refine ⟨_, _, rfl, fun path => hlast.current, ?_, ?_, step_eq_idle_iff _, hsteps, ?_⟩
  · intro e he
    obtain ⟨-, hstep⟩ | ⟨path, frame, outer, fault, after, -, hlocated, hperform, hstep⟩ |
      ⟨report, after, place, -, -, hstep, -⟩ := hlast.step_cases
    · simp [hstep] at he
    · rw [hstep, Except.error.injEq] at he
      have hinstr := hlocated.executable hprogram
      exact ⟨fault, he.symm, Machine.ne_notExecutable_of_perform hinstr hperform⟩
    · simp [hstep] at he
  · intro hended
    refine ⟨?_, fun radius => ?_, step_of_ended hended, path_session_of_ended hended⟩
    · rw [current?, hended]
    · rw [snapshot, hended]
  · intro hrunning
    rw [hsteps, countP_session_of_running calls hrunning]

/-- The program `,[[].]`, whose first attempt to read fails.  Then a 3 arrives, and later its cell is set to
zero inside the outer loop: the path goes over the inner loop to the output, and of the four steps all but
the first one count. -/
theorem recovered_input_keeps_place :
    Program.Executable [.act .input, .loop [.loop [], .act .output]] ∧
    ∃ answers stepper,
      (init [.act .input, .loop [.loop [], .act .output]]
          (.init (.fixed 4) { pending := [], failsAfter := some 0 } {})).session
        [.step, .turnFeed [3] none, .step, .step, .setCell 0 0, .step, .snapshot 1] =
          (answers, stepper) ∧
      answers.head? = some (.stepped (.error (.fault (.io .unreadable)))) ∧
      stepper.path = some [1, 1] ∧
      Program.Selects [.act .input, .loop [.loop [], .act .output]] [1, 1] ∧
      stepper.steps = 3 ∧ answers.countP StepperAnswer.succeeded = 3 := by
  have hexecutable : Program.Executable [.act .input, .loop [.loop [], .act .output]] := by
    have hinside : ∀ instr ∈ ([.loop [], .act .output] : Program), instr.Executable := by
      simp only [List.mem_cons, List.not_mem_nil, or_false, forall_eq_or_imp, forall_eq]
      exact ⟨.loop (by simp), .act (by simp)⟩
    simp only [Program.Executable, List.mem_cons, List.not_mem_nil, or_false, forall_eq_or_imp,
      forall_eq]
    exact ⟨.act (by simp), .loop hinside⟩
  obtain ⟨answers, stepper, hsession, hplace, -, -, -, -, hcount⟩ :=
    session_keeps_place _ hexecutable (.init (.fixed 4) { pending := [], failsAfter := some 0 } {})
      [.step, .turnFeed [3] none, .step, .step, .setCell 0 0, .step, .snapshot 1]
  have hanswers : answers = ((init [.act .input, .loop [.loop [], .act .output]]
      (.init (.fixed 4) { pending := [], failsAfter := some 0 } {})).session
        [.step, .turnFeed [3] none, .step, .step, .setCell 0 0, .step, .snapshot 1]).1 := by rw [hsession]
  have hstepper : stepper = ((init [.act .input, .loop [.loop [], .act .output]]
      (.init (.fixed 4) { pending := [], failsAfter := some 0 } {})).session
        [.step, .turnFeed [3] none, .step, .step, .setCell 0 0, .step, .snapshot 1]).2 := by rw [hsession]
  have hfailed : answers.head? = some (.stepped (.error (.fault (.io .unreadable)))) := by
    rw [hanswers]
    rfl
  have hpath : stepper.path = some [1, 1] := by
    rw [hstepper]
    rfl
  have hsteps : stepper.steps = 3 := by
    rw [hstepper]
    rfl
  have hsucceeded : stepper.steps = answers.countP StepperAnswer.succeeded := hcount (by rw [hpath]; simp)
  exact ⟨hexecutable, answers, stepper, hsession, hfailed, hpath, (hplace _ hpath).1, hsteps,
    hsucceeded.symm.trans hsteps⟩

/-- At the end of a program a step neither fails nor counts. -/
theorem step_at_end_not_counted :
    Program.Executable [] ∧
    ∃ answers stepper,
      (init [] (.init .rightUnbounded { pending := [] } {})).session [.step] = (answers, stepper) ∧
      answers = [.stepped (.ok .idle)] ∧ answers.countP StepperAnswer.succeeded = 1 ∧
      stepper.steps = 0 ∧ stepper.steps ≠ answers.countP StepperAnswer.succeeded := by
  refine ⟨by simp [Program.Executable], _, _, rfl, rfl, rfl, rfl, ?_⟩
  decide

end Stepper

end TapeLang
