import TapeLang.Proofs.Machine.View
import TapeLang.Proofs.Program.Grammar

/-!
# A machine that executes commands one at a time

There is a simpler way to execute a program than to read it first: go through the commands from left
to right and do what each one says.  Nothing is folded, and a loop is only a pair of commands that jump
to one another.  `CommandMachine` is that machine.  It stands between the commands it has passed and
those ahead of it, and it looks for the partner of a loop's head or tail each time it has to jump.

* `CommandMachine.step` executes one command, `CommandMachine.run` all of them.
* `CommandMachine.Steps`: a counted number of commands, and what it means for a run (`Steps.run_some`).
* `CommandMachine.InCancelledRun`: the next command belongs to a run of data commands that cancel.
* `Spells.skips`: the search for a partner passes over commands that spell a program.
* **`CommandMachine.steps_run`**: a run of commands amounts to a single action.
-/

namespace TapeLang

/-! ## Looking for a partner -/

/-- Carries commands over from one list to another until it has carried a `target` that is not the
partner of a `nested` one carried before.  Without such a `target`, it carries them all. -/
def carry (nested target : TokenKind) (depth : Nat) (onto : List TokenKind) :
    List TokenKind → List TokenKind × List TokenKind
  | [] => (onto, [])
  | command :: source =>
    if command = nested then carry nested target (depth + 1) (command :: onto) source
    else if command = target then
      match depth with
      | 0 => (command :: onto, source)
      | depth + 1 => carry nested target depth (command :: onto) source
    else carry nested target depth (command :: onto) source

/-- The commands can be carried over as a whole, at any depth. -/
def Skips (nested target : TokenKind) (commands : List TokenKind) : Prop :=
  ∀ depth onto source, carry nested target depth onto (commands ++ source) =
    carry nested target depth (commands.reverse ++ onto) source

section Skips

variable {nested target : TokenKind}

lemma carry_target (h : target ≠ nested) (onto source : List TokenKind) :
    carry nested target 0 onto (target :: source) = (target :: onto, source) := by
  simp [carry, h]

lemma skips_nil : Skips nested target [] := fun _ _ _ => rfl

lemma Skips.append {first second : List TokenKind} (hfirst : Skips nested target first)
    (hsecond : Skips nested target second) : Skips nested target (first ++ second) := by
  intro depth onto source
  rw [List.append_assoc, hfirst, hsecond, List.reverse_append, List.append_assoc]

lemma skips_single {command : TokenKind} (hnested : command ≠ nested) (htarget : command ≠ target) :
    Skips nested target [command] := by
  intro depth onto source
  simp [carry, hnested, htarget]

lemma skips_of_forall {commands : List TokenKind}
    (h : ∀ command ∈ commands, command ≠ nested ∧ command ≠ target) :
    Skips nested target commands := by
  induction commands with
  | nil => exact skips_nil
  | cons command commands ih =>
    obtain ⟨⟨hnested, htarget⟩, hrest⟩ := List.forall_mem_cons.mp h
    exact (skips_single hnested htarget).append (ih hrest)

lemma Skips.pair (hne : target ≠ nested) {commands : List TokenKind}
    (h : Skips nested target commands) : Skips nested target (nested :: (commands ++ [target])) := by
  intro depth onto source
  have hdeeper : carry nested target depth onto (nested :: (commands ++ [target] ++ source)) =
      carry nested target (depth + 1) (nested :: onto) (commands ++ (target :: source)) := by
    simp [carry]
  rw [List.cons_append, hdeeper, h]
  simp [carry, hne]

end Skips

lemma TokenKind.ne_loop_of_axis? {command : TokenKind} {axis : Axis} (h : command.axis? = some axis) :
    command ≠ .loopHead ∧ command ≠ .loopTail := by
  constructor
  · rintro rfl
    simp [TokenKind.axis?] at h
  · rintro rfl
    simp [TokenKind.axis?] at h

/-- Commands that spell a program hide no partner from the search for a tail. -/
lemma Spells.skips {commands : List TokenKind} {program : Program} (h : Spells commands program) :
    Skips .loopHead .loopTail commands := by
  induction h with
  | nil => exact skips_nil
  | @run axis first run rest program hrun hends hrest ih =>
    have hskips : Skips .loopHead .loopTail (first :: run) :=
      skips_of_forall fun command hcommand => command.ne_loop_of_axis? (hrun command hcommand)
    exact hskips.append ih
  | output hrest ih => exact (skips_single (by decide) (by decide)).append ih
  | input hrest ih => exact (skips_single (by decide) (by decide)).append ih
  | loop hinside hrest ihinside ihrest =>
    have hskips := (ihinside.pair (by decide)).append ihrest
    simpa using hskips

/-- Nor, from behind, from the search for a head. -/
lemma Spells.skips_reverse {commands : List TokenKind} {program : Program}
    (h : Spells commands program) : Skips .loopTail .loopHead commands.reverse := by
  induction h with
  | nil => exact skips_nil
  | @run axis first run rest program hrun hends hrest ih =>
    have hskips : Skips .loopTail .loopHead (first :: run).reverse :=
      skips_of_forall fun command hcommand =>
        (command.ne_loop_of_axis? (hrun command (List.mem_reverse.mp hcommand))).symm
    simpa using ih.append hskips
  | output hrest ih => simpa using ih.append (skips_single (by decide) (by decide))
  | input hrest ih => simpa using ih.append (skips_single (by decide) (by decide))
  | loop hinside hrest ihinside ihrest =>
    have hskips := ihrest.append (ihinside.pair (by decide))
    simpa using hskips

/-! ## The machine -/

/-- Where the machine stands, and what is to be seen of it: the commands it has passed, latest first,
and the commands ahead. -/
structure CommandMachine where
  passed : List TokenKind
  ahead : List TokenKind
  view : View

namespace CommandMachine

def init (commands : List TokenKind) (feed : Feed) (sink : Sink) : CommandMachine :=
  { passed := [], ahead := commands, view := View.init feed sink }

/-- Performs an action and passes the command that stands for it. -/
def act (policy : Policy) (passed : List TokenKind) (command : TokenKind) (ahead : List TokenKind)
    (view : View) (action : Action) : Except Fault CommandMachine := do
  let view ← view.act policy action
  return ⟨command :: passed, ahead, view⟩

/-- Executes `command`, with `ahead` behind it. -/
def execute (policy : Policy) (passed : List TokenKind) (command : TokenKind) (ahead : List TokenKind)
    (view : View) : Except Fault CommandMachine :=
  match command with
  | .pointerUp => act policy passed command ahead view (.move 1)
  | .pointerDown => act policy passed command ahead view (.move (-1))
  | .dataUp => act policy passed command ahead view (.add 1)
  | .dataDown => act policy passed command ahead view (.add (-1))
  | .output => act policy passed command ahead view .output
  | .input => act policy passed command ahead view .input
  | .loopHead => do
    let cell ← view.access policy
    if cell = 0 then
      -- past the tail
      let (passed, ahead) := carry .loopHead .loopTail 0 (command :: passed) ahead
      return ⟨passed, ahead, view⟩
    else return ⟨command :: passed, ahead, view⟩
  | .loopTail =>
    -- back to the head
    let (ahead, passed) := carry .loopTail .loopHead 0 (command :: ahead) passed
    .ok ⟨passed, ahead, view⟩

/-- Executes the next command; `none` means that there is none left. -/
def step (policy : Policy) : CommandMachine → Option (Except Fault CommandMachine)
  | ⟨_, [], _⟩ => none
  | ⟨passed, command :: ahead, view⟩ => some (execute policy passed command ahead view)

/-- Executes commands until none is left or one fails; `none` means that this takes longer than the
bound allows.  The machine is given back as it stands, in front of the command that failed. -/
def run (policy : Policy) : (bound : Nat) → CommandMachine → Option (Except Fault Unit × CommandMachine)
  | 0, _ => none
  | bound + 1, machine =>
    match machine.step policy with
    | none => some (.ok (), machine)
    | some (.error fault) => some (.error fault, machine)
    | some (.ok next) => run policy bound next

/-- The machine comes to an end, if only the bound is great enough. -/
def Ends (policy : Policy) (machine : CommandMachine) (result : Except Fault Unit)
    (last : CommandMachine) : Prop :=
  ∃ bound, run policy bound machine = some (result, last)

/-- The data commands that follow one another around the place where the machine stands. -/
def dataRun (machine : CommandMachine) : List TokenKind :=
  (machine.passed.takeWhile (·.axis? = some .data)).reverse ++
    machine.ahead.takeWhile (·.axis? = some .data)

/-- The machine stands in front of a data command, and in the middle of a run that cancels. -/
def InCancelledRun (machine : CommandMachine) : Prop :=
  (∃ command, machine.ahead.head? = some command ∧ command.axis? = some .data) ∧
    net machine.dataRun = 0

/-! ### Counting commands -/

/-- The machine gets from one place to another by executing that many commands. -/
inductive Steps (policy : Policy) : Nat → CommandMachine → CommandMachine → Prop where
  | refl (machine : CommandMachine) : Steps policy 0 machine machine
  | step {count : Nat} {machine next last : CommandMachine}
      (hstep : machine.step policy = some (.ok next)) (hrest : Steps policy count next last) :
      Steps policy (count + 1) machine last

variable {policy : Policy} {count more bound : Nat} {machine midway last : CommandMachine}
  {result : Except Fault Unit}

lemma Steps.one (h : machine.step policy = some (.ok last)) : Steps policy 1 machine last :=
  .step h (.refl last)

lemma Steps.trans (h : Steps policy count machine midway) (h' : Steps policy more midway last) :
    Steps policy (count + more) machine last := by
  induction h with
  | refl => rwa [Nat.zero_add]
  | step hstep _ ih =>
    rw [Nat.add_right_comm]
    exact .step hstep (ih h')

lemma run_of_step {next : CommandMachine} (h : machine.step policy = some (.ok next)) (bound : Nat) :
    run policy (bound + 1) machine = run policy bound next := by
  simp only [run, h]

lemma eq_of_run_error {fault : Fault} (h : machine.step policy = some (.error fault))
    (hrun : run policy bound machine = some (result, last)) : result = .error fault ∧ last = machine := by
  cases bound with
  | zero => simp [run] at hrun
  | succ bound =>
    simp only [run, h, Option.some.injEq, Prod.mk.injEq] at hrun
    exact ⟨hrun.1.symm, hrun.2.symm⟩

lemma eq_of_run_none (h : machine.step policy = none)
    (hrun : run policy bound machine = some (result, last)) : result = .ok () ∧ last = machine := by
  cases bound with
  | zero => simp [run] at hrun
  | succ bound =>
    simp only [run, h, Option.some.injEq, Prod.mk.injEq] at hrun
    exact ⟨hrun.1.symm, hrun.2.symm⟩

/-- A run that comes to an end has executed the commands, and goes on from there. -/
lemma Steps.run_some (h : Steps policy count machine midway)
    (hrun : run policy bound machine = some (result, last)) :
    ∃ left, bound = count + left ∧ run policy left midway = some (result, last) := by
  induction h generalizing bound with
  | refl => exact ⟨bound, by omega, hrun⟩
  | step hstep _ ih =>
    cases bound with
    | zero => simp [run] at hrun
    | succ bound =>
      rw [run_of_step hstep] at hrun
      obtain ⟨left, rfl, hleft⟩ := ih hrun
      exact ⟨left, by omega, hleft⟩

lemma Steps.ends (h : Steps policy count machine midway) (hends : Ends policy midway result last) :
    Ends policy machine result last := by
  induction h with
  | refl => exact hends
  | step hstep _ ih =>
    obtain ⟨bound, hbound⟩ := ih hends
    exact ⟨bound + 1, by rw [run_of_step hstep, hbound]⟩

/-- A machine that fails stands in front of the command that did. -/
lemma step_of_ends {fault : Fault} (h : Ends policy machine (.error fault) last) :
    last.step policy = some (.error fault) := by
  obtain ⟨bound, hrun⟩ := h
  induction bound generalizing machine with
  | zero => simp [run] at hrun
  | succ bound ih =>
    cases hstep : machine.step policy with
    | none => exact absurd (eq_of_run_none hstep hrun).1 (by simp)
    | some outcome =>
      cases outcome with
      | error fault' =>
        obtain ⟨hfault, rfl⟩ := eq_of_run_error hstep hrun
        rw [hstep, Except.error.inj hfault]
      | ok next =>
        rw [run_of_step hstep] at hrun
        exact ih hrun

lemma ends_of_error {fault : Fault} (h : machine.step policy = some (.error fault)) :
    Ends policy machine (.error fault) machine := ⟨1, by simp only [run, h]⟩

lemma ends_of_none (h : machine.step policy = none) : Ends policy machine (.ok ()) machine :=
  ⟨1, by simp only [run, h]⟩

end CommandMachine

/-! ## Runs of commands -/

lemma cellOf_add (value more : Int) : cellOf ((cellOf value).toNat + more) = cellOf (value + more) := by
  apply UInt8.toNat_inj.mp
  simp only [cellOf, UInt8.toNat_ofNat']
  omega

namespace View

variable {policy : Policy} {view next : View} {axis : Axis} {distance : Int}

lemma put_put (view : View) (first second : UInt8) : (view.put first).put second = view.put second := by
  simp only [put, Function.update_idem]

lemma cells_put (view : View) (cell : UInt8) : (view.put cell).cells (view.put cell).pointer = cell := by
  simp only [put, Function.update_self]

lemma act_add_of_excludes (h : policy.Excludes view.pointer) (n : Int) :
    view.act policy (.add n) = .error (.outOfBounds ⟨view.pointer⟩) := by
  simp only [act, access_of_excludes h]
  rfl

lemma act_add_of_includes (h : ¬ policy.Excludes view.pointer) (n : Int) :
    view.act policy (.add n) = .ok (view.put (cellOf ((view.cells view.pointer).toNat + n))) := by
  simp only [act, access_of_includes h]
  rfl

lemma includes_of_act_add {n : Int} (h : view.act policy (.add n) = .ok next) :
    ¬ policy.Excludes view.pointer ∧
      next = view.put (cellOf ((view.cells view.pointer).toNat + n)) := by
  by_cases hout : policy.Excludes view.pointer
  · simp [act_add_of_excludes hout] at h
  · rw [act_add_of_includes hout, Except.ok.injEq] at h
    exact ⟨hout, h.symm⟩

lemma exists_act_action (h : ¬ policy.Excludes view.pointer) (axis : Axis) (n : Int) :
    ∃ next, view.act policy (axis.action n) = .ok next := by
  cases axis with
  | pointer => exact ⟨_, rfl⟩
  | data => exact ⟨_, act_add_of_includes h n⟩

/-- An axis is refused, if at all, at its current cell and whatever the distance. -/
lemma act_action_error {fault : Fault} (h : view.act policy (axis.action distance) = .error fault) :
    axis = .data ∧ fault = .outOfBounds ⟨view.pointer⟩ ∧
      ∀ n, view.act policy (axis.action n) = .error fault := by
  cases axis with
  | pointer => simp [Axis.action, act] at h
  | data =>
    simp only [Axis.action] at h
    by_cases hout : policy.Excludes view.pointer
    · rw [act_add_of_excludes hout, Except.error.injEq] at h
      subst h
      exact ⟨rfl, rfl, act_add_of_excludes hout⟩
    · simp [act_add_of_includes hout] at h

lemma act_action_ok (h : view.act policy (axis.action distance) = .ok next) (n : Int) :
    next.act policy (axis.action n) = view.act policy (axis.action (distance + n)) := by
  cases axis with
  | pointer =>
    simp only [Axis.action, act, Except.ok.injEq] at h ⊢
    subst h
    simp [Int.add_assoc]
  | data =>
    obtain ⟨hin, rfl⟩ := includes_of_act_add h
    -- the pointer has not moved, so the second addition is not refused either
    have hstill : ¬ policy.Excludes (view.put
        (cellOf ((view.cells view.pointer).toNat + distance))).pointer := hin
    simp only [Axis.action]
    rw [act_add_of_includes hin, act_add_of_includes hstill, put_put, cells_put, cellOf_add,
      Int.add_assoc]

lemma act_action_zero (h : view.act policy (axis.action 0) = .ok next) : next = view := by
  cases axis with
  | pointer =>
    simp only [Axis.action, act, Except.ok.injEq, Int.add_zero] at h
    exact h.symm
  | data =>
    obtain ⟨-, rfl⟩ := includes_of_act_add h
    rw [Int.add_zero, cellOf_toNat, put, Function.update_eq_self]

end View

namespace CommandMachine

variable {policy : Policy} {passed ahead : List TokenKind} {view next : View} {axis : Axis}

lemma step_of_axis? {command : TokenKind} (h : command.axis? = some axis) :
    step policy ⟨passed, command :: ahead, view⟩ =
      some (act policy passed command ahead view (axis.action command.delta)) := by
  cases command <;> simp only [TokenKind.axis?, Option.some.injEq, reduceCtorEq] at h <;> subst h <;> rfl

/-- **A run amounts to a single action.** -/
theorem steps_run {commands : List TokenKind}
    (hrun : ∀ command ∈ commands, command.axis? = some axis)
    (h : view.act policy (axis.action (net commands)) = .ok next) :
    Steps policy commands.length ⟨passed, commands ++ ahead, view⟩
      ⟨commands.reverse ++ passed, ahead, next⟩ := by
  induction commands generalizing passed view with
  | nil =>
    rw [View.act_action_zero h]
    exact .refl _
  | cons command commands ih =>
    obtain ⟨hcommand, hrun⟩ := List.forall_mem_cons.mp hrun
    cases hfirst : view.act policy (axis.action command.delta) with
    | error fault =>
      rw [(View.act_action_error hfirst).2.2] at h
      exact absurd h (by simp)
    | ok midway =>
      have hrest : midway.act policy (axis.action (net commands)) = .ok next := by
        rw [View.act_action_ok hfirst, ← net_cons, h]
      have hstep : step policy ⟨passed, command :: (commands ++ ahead), view⟩ =
          some (.ok ⟨command :: passed, commands ++ ahead, midway⟩) := by
        rw [step_of_axis? hcommand, act, hfirst]
        rfl
      have hsteps := Steps.step hstep (ih hrun hrest)
      simpa using hsteps

lemma step_run_error {first : TokenKind} {distance : Int} {fault : Fault}
    (hfirst : first.axis? = some axis) (h : view.act policy (axis.action distance) = .error fault) :
    step policy ⟨passed, first :: ahead, view⟩ = some (.error fault) := by
  rw [step_of_axis? hfirst, act, (View.act_action_error h).2.2]
  rfl

lemma inCancelledRun_of_run {first : TokenKind} {run : List TokenKind}
    (hrun : ∀ command ∈ first :: run, command.axis? = some .data) (hnet : net (first :: run) = 0)
    (hpassed : Axis.data.EndsBefore passed) (hahead : Axis.data.EndsBefore ahead) :
    InCancelledRun ⟨passed, first :: (run ++ ahead), view⟩ := by
  have hall : ∀ command ∈ first :: run, decide (command.axis? = some .data) = true :=
    fun command hcommand => decide_eq_true (hrun command hcommand)
  refine ⟨⟨first, rfl, hrun first List.mem_cons_self⟩, ?_⟩
  rw [dataRun, ← List.cons_append, List.takeWhile_append_of_pos hall, hpassed.takeWhile_eq_nil,
    hahead.takeWhile_eq_nil]
  simpa using hnet

lemma excludes_of_step_error {machine : CommandMachine} {command : TokenKind} {fault : Fault}
    (hhead : machine.ahead.head? = some command) (haxis : command.axis? = some axis)
    (hstep : machine.step policy = some (.error fault)) : policy.Excludes machine.view.pointer := by
  obtain ⟨passed, _ | ⟨first, ahead⟩, view⟩ := machine
  · simp at hhead
  · rw [List.head?_cons, Option.some.injEq] at hhead
    subst hhead
    by_contra hin
    obtain ⟨next, hact⟩ := View.exists_act_action hin axis first.delta
    rw [step_of_axis? haxis, act, hact] at hstep
    exact absurd hstep (by simp [bind, Except.bind, pure, Except.pure])

/-! ## Loops -/

variable {inside : List TokenKind} {body : Program} {cell : UInt8}

lemma step_head_error {fault : Fault} (h : view.access policy = .error fault) :
    step policy ⟨passed, .loopHead :: ahead, view⟩ = some (.error fault) := by
  simp only [step, execute, h]
  rfl

lemma step_head_enter (h : view.access policy = .ok cell) (hcell : cell ≠ 0) :
    step policy ⟨passed, .loopHead :: ahead, view⟩ = some (.ok ⟨.loopHead :: passed, ahead, view⟩) := by
  simp only [step, execute, h, bind, Except.bind, if_neg hcell]
  rfl

lemma step_head_skip (h : view.access policy = .ok 0) (hinside : Spells inside body) :
    step policy ⟨passed, .loopHead :: (inside ++ .loopTail :: ahead), view⟩ =
      some (.ok ⟨.loopTail :: (inside.reverse ++ .loopHead :: passed), ahead, view⟩) := by
  simp only [step, execute, h, bind, Except.bind]
  rw [hinside.skips, carry_target (by decide)]
  rfl

lemma step_tail (hinside : Spells inside body) (view : View) :
    step policy ⟨inside.reverse ++ .loopHead :: passed, .loopTail :: ahead, view⟩ =
      some (.ok ⟨passed, .loopHead :: (inside ++ .loopTail :: ahead), view⟩) := by
  simp only [step, execute]
  rw [hinside.skips_reverse, carry_target (by decide), List.reverse_reverse]

end CommandMachine

end TapeLang
