import TapeLang.Proofs.Commands.Machine
import TapeLang.Proofs.Machine.Agenda

/-!
# Reading and running is executing the commands

A source text can be executed in two ways: read a program from it and run that program, or execute its
commands one at a time.  This file compares the two.

They would be the same but for the runs of data commands that cancel.  Such a run leaves no trace in the
program, so the program does not notice when the current cell lies outside the tape; the command machine
does, at the first command of the run.

* `Meets`: what both machines do next, in front of commands that spell a program.  There are six cases,
  and `Spells.meets` shows that there are no more.
* `Spells.matches_of_run`: what the program does, the commands do, unless they are refused in a cancelled
  run.
* `Spells.followed_of_run`: what the commands do, the program does, with the same exception.
* **`Program.run_refines_commands`**: the comparison for whole sources.
-/

namespace TapeLang

open CommandMachine

/-- No run of data commands reaches from what has been passed into what comes next. -/
def Apart (passed spelled : List TokenKind) : Prop :=
  Axis.data.EndsBefore passed ∨ Axis.data.EndsBefore spelled

/-- A loop's head and tail end every run. -/
lemma apart_head (passed spelled : List TokenKind) : Apart (.loopHead :: passed) spelled :=
  .inl (Axis.endsBefore_cons.mpr (by simp [TokenKind.axis?]))

lemma endsBefore_tail (behind : List TokenKind) : Axis.data.EndsBefore (.loopTail :: behind) :=
  Axis.endsBefore_cons.mpr (by simp [TokenKind.axis?])

/-! ## One unit at a time -/

/-- What comes next for a machine in front of a program, and for a command machine in front of the
commands that spell it: the next unit, then what else is spelled, and then the `rest`. -/
inductive Meets (policy : Policy) (rest : List TokenKind) (machine : Machine)
    (passed : List TokenKind) (view : View) : List TokenKind → Program → Prop where
  -- nothing is left
  | done : Meets policy rest machine passed view [] []
  -- a run that cancels
  | silent {unit spelled : List TokenKind} {program : Program} {count : Nat}
      (hunit : 0 < unit.length)
      (hsteps : Steps policy (count + 1) ⟨passed, unit ++ spelled ++ rest, view⟩
        ⟨unit.reverse ++ passed, spelled ++ rest, view⟩)
      (hspells : Spells spelled program) (hapart : Apart (unit.reverse ++ passed) spelled) :
      Meets policy rest machine passed view (unit ++ spelled) program
  -- a run that cancels, outside the tape
  | refused {spelled : List TokenKind} {program : Program}
      (hstep : step policy ⟨passed, spelled ++ rest, view⟩ =
        some (.error (.outOfBounds ⟨view.pointer⟩)))
      (hcancelled : InCancelledRun ⟨passed, spelled ++ rest, view⟩) :
      Meets policy rest machine passed view spelled program
  -- an instruction that fails
  | failed {spelled : List TokenKind} {instr : Instr} {program : Program} {fault : Fault}
      {after : Machine} (hstep : step policy ⟨passed, spelled ++ rest, view⟩ = some (.error fault))
      (hperform : machine.perform instr = (.error fault, after)) (hafter : after.Shows policy view) :
      Meets policy rest machine passed view spelled (instr :: program)
  -- an instruction that is done, or a loop that is not entered
  | advanced {unit spelled : List TokenKind} {instr : Instr} {program : Program} {count : Nat}
      {after : Machine} {next : View}
      (hsteps : Steps policy (count + 1) ⟨passed, unit ++ spelled ++ rest, view⟩
        ⟨unit.reverse ++ passed, spelled ++ rest, next⟩)
      (hperform : machine.perform instr = (.ok .advance, after)) (hafter : after.Shows policy next)
      (hspells : Spells spelled program) (hapart : Apart (unit.reverse ++ passed) spelled) :
      Meets policy rest machine passed view (unit ++ spelled) (instr :: program)
  -- a loop that is entered
  | entered {inside behind : List TokenKind} {body program : Program} {after : Machine}
      (hstep : step policy ⟨passed, .loopHead :: (inside ++ .loopTail :: behind) ++ rest, view⟩ =
        some (.ok ⟨.loopHead :: passed, inside ++ .loopTail :: (behind ++ rest), view⟩))
      (hperform : machine.perform (.loop body) = (.ok (.enter body), after))
      (hafter : after.Shows policy view) (hinside : Spells inside body) :
      Meets policy rest machine passed view (.loopHead :: (inside ++ .loopTail :: behind))
        (.loop body :: program)

section Units

variable {policy : Policy} {rest passed spelled : List TokenKind} {machine : Machine} {view : View}
  {program : Program}

/-- Behind a run of data commands stands something else, and a run of moves is something else itself. -/
lemma apart_of_run {axis : Axis} {run : List TokenKind}
    (hrun : ∀ command ∈ run, command.axis? = some axis) (hne : run ≠ [])
    (hends : axis.EndsBefore spelled) : Apart (run.reverse ++ passed) spelled := by
  cases axis with
  | data => exact .inr hends
  | pointer =>
    refine .inl (Axis.endsBefore_of_forall (fun command hcommand => ?_) (by simpa using hne) passed)
    rw [hrun command (List.mem_reverse.mp hcommand)]
    simp

lemma meets_run {axis : Axis} {first : TokenKind} {run : List TokenKind}
    (hshows : machine.Shows policy view) (hrest : Axis.data.EndsBefore rest)
    (hapart : Apart passed (first :: (run ++ spelled)))
    (hrun : ∀ command ∈ first :: run, command.axis? = some axis) (hends : axis.EndsBefore spelled)
    (hspells : Spells spelled program) :
    Meets policy rest machine passed view ((first :: run) ++ spelled)
      (Program.ofRun axis (net (first :: run)) ++ program) := by
  have hfirst : first.axis? = some axis := hrun first List.mem_cons_self
  cases hact : view.act policy (axis.action (net (first :: run))) with
  | error fault =>
    obtain ⟨rfl, rfl, -⟩ := View.act_action_error hact
    have hstep : step policy ⟨passed, (first :: run) ++ spelled ++ rest, view⟩ =
        some (.error (.outOfBounds ⟨view.pointer⟩)) := step_run_error hfirst hact
    by_cases hnet : net (first :: run) = 0
    · have hpassed : Axis.data.EndsBefore passed :=
        hapart.resolve_right fun hnot => Axis.endsBefore_cons.mp hnot hfirst
      refine .refused hstep ?_
      rw [List.append_assoc]
      exact inCancelledRun_of_run hrun hnet hpassed (hends.append hrest)
    · obtain ⟨after, hperform, hafter⟩ := hshows.perform_error hact
      rw [Program.ofRun, if_neg hnet]
      exact .failed hstep hperform hafter
  | ok next =>
    have hsteps : Steps policy (run.length + 1) ⟨passed, (first :: run) ++ spelled ++ rest, view⟩
        ⟨(first :: run).reverse ++ passed, spelled ++ rest, next⟩ := by
      rw [List.append_assoc]
      exact steps_run hrun hact
    have hbehind : Apart ((first :: run).reverse ++ passed) spelled :=
      apart_of_run hrun (List.cons_ne_nil first run) hends
    by_cases hnet : net (first :: run) = 0
    · rw [hnet] at hact
      rw [View.act_action_zero hact] at hsteps
      rw [Program.ofRun, if_pos hnet]
      exact .silent (Nat.succ_pos run.length) hsteps hspells hbehind
    · obtain ⟨after, hperform, hafter⟩ := hshows.perform_ok hact
      rw [Program.ofRun, if_neg hnet]
      exact .advanced hsteps hperform hafter hspells hbehind

/-- A command that is an instruction of its own. -/
lemma meets_action {command : TokenKind} {action : Action} (hshows : machine.Shows policy view)
    (haxis : command.axis? = none)
    (hcommand : ∀ passed ahead view, step policy ⟨passed, command :: ahead, view⟩ =
      some (CommandMachine.act policy passed command ahead view action))
    (hspells : Spells spelled program) :
    Meets policy rest machine passed view ([command] ++ spelled) (.act action :: program) := by
  have hstep : step policy ⟨passed, [command] ++ spelled ++ rest, view⟩ =
      some (CommandMachine.act policy passed command (spelled ++ rest) view action) :=
    hcommand _ _ _
  cases hact : view.act policy action with
  | error fault =>
    obtain ⟨after, hperform, hafter⟩ := hshows.perform_error hact
    rw [CommandMachine.act, hact] at hstep
    exact .failed hstep hperform hafter
  | ok next =>
    obtain ⟨after, hperform, hafter⟩ := hshows.perform_ok hact
    rw [CommandMachine.act, hact] at hstep
    have hbehind : Apart ([command].reverse ++ passed) spelled :=
      .inl (Axis.endsBefore_cons.mpr (by simp [haxis]))
    exact .advanced (.one hstep) hperform hafter hspells hbehind

lemma meets_loop {inside behind : List TokenKind} {body : Program}
    (hshows : machine.Shows policy view) (hinside : Spells inside body)
    (hspells : Spells behind program) :
    Meets policy rest machine passed view (.loopHead :: (inside ++ .loopTail :: behind))
      (.loop body :: program) := by
  cases haccess : view.access policy with
  | error fault =>
    obtain ⟨after, hperform, hafter⟩ := hshows.loop_error haccess body
    exact .failed (step_head_error haccess) hperform hafter
  | ok cell =>
    obtain ⟨after, hperform, hafter⟩ := hshows.loop_ok haccess body
    by_cases hcell : cell = 0
    · -- the whole loop is one unit
      subst hcell
      have hstep : step policy
          ⟨passed, .loopHead :: (inside ++ [.loopTail]) ++ behind ++ rest, view⟩ =
          some (.ok ⟨(.loopHead :: (inside ++ [.loopTail])).reverse ++ passed, behind ++ rest, view⟩) := by
        simpa using step_head_skip haccess hinside
      have hbehind : Apart ((.loopHead :: (inside ++ [.loopTail])).reverse ++ passed) behind := by
        rw [List.reverse_cons, List.reverse_append]
        exact .inl (endsBefore_tail _)
      have hmeets : Meets policy rest machine passed view
          (.loopHead :: (inside ++ [.loopTail]) ++ behind) _ :=
        .advanced (.one hstep) hperform hafter hspells hbehind
      simpa using hmeets
    · rw [if_neg hcell] at hperform
      exact .entered (by simpa using step_head_enter haccess hcell) hperform hafter hinside

/-- **There is nothing else to meet.** -/
theorem Spells.meets (h : Spells spelled program) (hshows : machine.Shows policy view)
    (hrest : Axis.data.EndsBefore rest) (hapart : Apart passed spelled) : Meets policy rest machine passed view spelled program := by
  cases h with
  | nil => exact .done
  | run hrun hends hspells => exact meets_run hshows hrest hapart hrun hends hspells
  | output hspells => exact meets_action hshows rfl (fun _ _ _ => rfl) hspells
  | input hspells => exact meets_action hshows rfl (fun _ _ _ => rfl) hspells
  | loop hinside hspells => exact meets_loop hshows hinside hspells

/-- The tail leads back to the head, where the loop is tested again. -/
lemma steps_back {inside : List TokenKind} {body : Program} (hinside : Spells inside body)
    (passed behind rest : List TokenKind) (view : View) :
    Steps policy 1 ⟨inside.reverse ++ .loopHead :: passed, .loopTail :: (behind ++ rest), view⟩
      ⟨passed, .loopHead :: (inside ++ .loopTail :: behind) ++ rest, view⟩ :=
  .one (by simpa using step_tail hinside view)

end Units

/-! ## From the program to the commands -/

namespace CommandMachine

/-- The machine comes to a cancelled run outside the tape. -/
def RefusedInCancelledRun (policy : Policy) (start : CommandMachine) : Prop :=
  ∃ last, Ends policy start (.error (.outOfBounds ⟨last.view.pointer⟩)) last ∧ last.InCancelledRun

/-- The machine does what the outcome of a program says.  If it does not fail, it gets behind the
commands of the program, with `past` then passed and `rest` ahead. -/
def Mirrors (policy : Policy) (start : CommandMachine) (past rest : List TokenKind) : Outcome → Prop
  | (.ok (), after) =>
    ∃ count view, Steps policy count start ⟨past, rest, view⟩ ∧ after.Shows policy view
  | (.error fault, after) =>
    ∃ last, Ends policy start (.error fault) last ∧ after.Shows policy last.view

/-- The machine does what the outcome says, unless it is refused. -/
def Matches (policy : Policy) (start : CommandMachine) (past rest : List TokenKind)
    (outcome : Outcome) : Prop :=
  RefusedInCancelledRun policy start ∨ Mirrors policy start past rest outcome

lemma Steps.matches {policy : Policy} {count : Nat} {start midway : CommandMachine}
    {past rest : List TokenKind} {outcome : Outcome} (hsteps : Steps policy count start midway)
    (h : Matches policy midway past rest outcome) : Matches policy start past rest outcome := by
  rcases h with ⟨last, hends, hcancelled⟩ | h
  · exact .inl ⟨last, hsteps.ends hends, hcancelled⟩
  · refine .inr ?_
    rcases outcome with ⟨fault | ⟨⟩, after⟩
    · obtain ⟨last, hends, hafter⟩ := h
      exact ⟨last, hsteps.ends hends, hafter⟩
    · obtain ⟨more, view, hmore, hafter⟩ := h
      exact ⟨count + more, view, hsteps.trans hmore, hafter⟩

end CommandMachine

/-- **What the program does, the commands do.** -/
theorem Spells.matches_of_run {policy : Policy} {depth : Nat} {program : Program} {machine : Machine}
    {outcome : Outcome} {passed spelled rest : List TokenKind} {view : View}
    (hspells : Spells spelled program) (hrun : Machine.run depth program machine = some outcome)
    (hshows : machine.Shows policy view) (hrest : Axis.data.EndsBefore rest)
    (hapart : Apart passed spelled) :
    Matches policy ⟨passed, spelled ++ rest, view⟩ (spelled.reverse ++ passed) rest outcome := by
  -- a cancelled run takes no depth, so it is the length of the commands that goes down there
  induction hsize : depth + spelled.length using Nat.strongRecOn
    generalizing depth program machine outcome passed spelled rest view with
  | ind size ih =>
    cases depth with
    | zero => simp [Machine.run] at hrun
    | succ depth =>
      cases hspells.meets hshows hrest hapart with
      | done =>
        simp only [Machine.run, Option.some.injEq] at hrun
        subst hrun
        exact .inr ⟨0, view, .refl _, hshows⟩
      | refused hstep hcancelled => exact .inl ⟨_, ends_of_error hstep, hcancelled⟩
      | failed hstep hperform hafter =>
        rw [Machine.run_of_error hperform, Option.some.injEq] at hrun
        subst hrun
        exact .inr ⟨_, ends_of_error hstep, hafter⟩
      | silent hunit hsteps hmore hbehind =>
        rw [List.length_append] at hsize
        refine hsteps.matches ?_
        rw [List.reverse_append, List.append_assoc]
        exact ih _ (by omega) hmore hrun hshows hrest hbehind rfl
      | advanced hsteps hperform hafter hmore hbehind =>
        rw [Machine.run_of_advance hperform] at hrun
        rw [List.length_append] at hsize
        refine hsteps.matches ?_
        rw [List.reverse_append, List.append_assoc]
        exact ih _ (by omega) hmore hrun hafter hrest hbehind rfl
      | @entered inside behind body program after hstep hperform hafter hinside =>
        rw [Machine.run_of_enter hperform] at hrun
        obtain ⟨⟨result, midway⟩, hbody, hagain⟩ := Option.bind_eq_some_iff.mp hrun
        have hshorter : depth + inside.length < size := by
          rw [List.length_cons, List.length_append] at hsize
          omega
        refine (Steps.one hstep).matches ?_
        rcases ih _ hshorter hinside hbody hafter (endsBefore_tail (behind ++ rest))
          (apart_head passed inside) rfl with hrefused | hmirrors
        · exact .inl hrefused
        · cases result with
          | error fault =>
            rw [Outcome.andThen, Option.some.injEq] at hagain
            subst hagain
            exact .inr hmirrors
          | ok =>
            obtain ⟨count, view', hthrough, hmidway⟩ := hmirrors
            exact (hthrough.trans (steps_back hinside passed behind rest view')).matches
              (ih _ (by omega) hspells hagain hmidway hrest hapart rfl)

/-! ## From the commands to the program -/

/-- How a program takes part in a run of the commands that ends with `result` in `last`. -/
inductive Followed (policy : Policy) (program : Program) (machine : Machine)
    (past rest : List TokenKind) (bound : Nat) : Except Fault Unit → CommandMachine → Prop where
  /-- The commands are refused in a cancelled run, of which the program knows nothing. -/
  | refused {last : CommandMachine} (hcancelled : last.InCancelledRun) :
      Followed policy program machine past rest bound
        (.error (.outOfBounds ⟨last.view.pointer⟩)) last
  /-- The program fails when the commands do. -/
  | failed {fault : Fault} {last : CommandMachine} {after : Machine}
      (hhalts : Machine.Halts program machine (.error fault, after))
      (hafter : after.Shows policy last.view) :
      Followed policy program machine past rest bound (.error fault) last
  /-- The program is done, and the commands go on behind it. -/
  | done {result : Except Fault Unit} {last : CommandMachine} {after : Machine} {view : View}
      {left : Nat} (hhalts : Machine.Halts program machine (.ok (), after))
      (hafter : after.Shows policy view) (hleft : left ≤ bound)
      (hrun : run policy left ⟨past, rest, view⟩ = some (result, last)) :
      Followed policy program machine past rest bound result last

/-- A program that comes to all the same ends takes part in the same way. -/
lemma Followed.imp {policy : Policy} {program program' : Program} {machine machine' : Machine}
    {past rest : List TokenKind} {bound bound' : Nat} {result : Except Fault Unit}
    {last : CommandMachine} (h : Followed policy program machine past rest bound result last)
    (hbound : bound ≤ bound')
    (himp : ∀ outcome, Machine.Halts program machine outcome → Machine.Halts program' machine' outcome) :
    Followed policy program' machine' past rest bound' result last := by
  cases h with
  | refused hcancelled => exact .refused hcancelled
  | failed hhalts hafter => exact .failed (himp _ hhalts) hafter
  | done hhalts hafter hleft hrun => exact .done (himp _ hhalts) hafter (by omega) hrun

/-- **What the commands do, the program does.** -/
theorem Spells.followed_of_run {policy : Policy} {bound : Nat} {program : Program} {machine : Machine}
    {result : Except Fault Unit} {last : CommandMachine} {passed spelled rest : List TokenKind}
    {view : View} (hspells : Spells spelled program)
    (hrun : CommandMachine.run policy bound ⟨passed, spelled ++ rest, view⟩ = some (result, last))
    (hshows : machine.Shows policy view) (hrest : Axis.data.EndsBefore rest)
    (hapart : Apart passed spelled) :
    Followed policy program machine (spelled.reverse ++ passed) rest bound result last := by
  induction bound using Nat.strongRecOn
    generalizing program machine result last passed spelled rest view with
  | ind bound ih =>
    cases hspells.meets hshows hrest hapart with
    | done => exact .done (Machine.halts_nil machine) hshows (Nat.le_refl bound) hrun
    | refused hstep hcancelled =>
      obtain ⟨rfl, rfl⟩ := eq_of_run_error hstep hrun
      exact .refused hcancelled
    | failed hstep hperform hafter =>
      obtain ⟨rfl, rfl⟩ := eq_of_run_error hstep hrun
      exact .failed (Machine.halts_of_error hperform) hafter
    | silent hunit hsteps hmore hbehind =>
      obtain ⟨left, rfl, hleft⟩ := hsteps.run_some hrun
      have hfollowed := ih left (by omega) hmore hleft hshows hrest hbehind
      rw [List.reverse_append, List.append_assoc]
      exact hfollowed.imp (by omega) fun _ hhalts => hhalts
    | advanced hsteps hperform hafter hmore hbehind =>
      obtain ⟨left, rfl, hleft⟩ := hsteps.run_some hrun
      have hfollowed := ih left (by omega) hmore hleft hafter hrest hbehind
      rw [List.reverse_append, List.append_assoc]
      exact hfollowed.imp (by omega) fun _ hhalts => hhalts.advance hperform
    | @entered inside behind body program after hstep hperform hafter hinside =>
      obtain ⟨left, rfl, hleft⟩ := (Steps.one hstep).run_some hrun
      cases ih left (by omega) hinside hleft hafter (endsBefore_tail (behind ++ rest))
        (apart_head passed inside) with
      | refused hcancelled => exact .refused hcancelled
      | failed hhalts hfailed => exact .failed (hhalts.enter_error hperform) hfailed
      | @done _ _ midway view' again hhalts hmidway hle hthrough =>
        obtain ⟨left', rfl, hagain⟩ :=
          (steps_back hinside passed behind rest view').run_some hthrough
        have hfollowed := ih left' (by omega) hspells hagain hmidway hrest hapart
        exact hfollowed.imp (by omega) fun _ hrepeat => hhalts.enter hrepeat hperform

/-! ## Whole sources -/

section Sources

variable {policy : Policy} {feed : Feed} {sink : Sink} {commands : List TokenKind} {program : Program}
  {result : Except Fault Unit}

lemma Spells.halts_of_ends {last : CommandMachine} (hspells : Spells commands program)
    (hends : Ends policy (.init commands feed sink) result last) :
    (∃ after, Machine.Halts program (.init policy feed sink) (result, after) ∧
        after.Shows policy last.view) ∨
      (result = .error (.outOfBounds ⟨last.view.pointer⟩) ∧ last.InCancelledRun) := by
  obtain ⟨bound, hrun⟩ := hends
  rw [CommandMachine.init, ← List.append_nil commands] at hrun
  cases hspells.followed_of_run hrun (Machine.init_shows policy feed sink)
    (Axis.endsBefore_nil .data) (.inl (Axis.endsBefore_nil .data)) with
  | refused hcancelled => exact .inr ⟨rfl, hcancelled⟩
  | failed hhalts hafter => exact .inl ⟨_, hhalts, hafter⟩
  | done hhalts hafter hleft hrun =>
    obtain ⟨rfl, rfl⟩ := eq_of_run_none rfl hrun
    exact .inl ⟨_, hhalts, hafter⟩

lemma Spells.ends_of_halts {after : Machine} (hspells : Spells commands program)
    (hhalts : Machine.Halts program (.init policy feed sink) (result, after)) :
    (∃ last, Ends policy (.init commands feed sink) result last ∧ after.Shows policy last.view) ∨
      RefusedInCancelledRun policy (.init commands feed sink) := by
  obtain ⟨depth, hrun⟩ := hhalts
  have hmatches := hspells.matches_of_run hrun (Machine.init_shows policy feed sink)
    (Axis.endsBefore_nil .data) (.inl (Axis.endsBefore_nil .data))
  rw [List.append_nil] at hmatches
  rcases hmatches with hrefused | hmirrors
  · exact .inr hrefused
  · refine .inl ?_
    cases result with
    | error fault => exact hmirrors
    | ok =>
      obtain ⟨count, view, hsteps, hafter⟩ := hmirrors
      exact ⟨_, hsteps.ends (ends_of_none rfl), hafter⟩

/-- Only a bounded tape refuses anything. -/
lemma not_refused_of_unbounded (start : CommandMachine) :
    ¬ RefusedInCancelledRun .bothUnbounded start := by
  rintro ⟨last, hends, ⟨command, hhead, haxis⟩, -⟩
  exact excludes_of_step_error hhead haxis (step_of_ends hends)

end Sources

/-- **Reading and running a source is executing its commands.**  The source has balanced loops and no
errors.  Then

* when the commands come to an end, other than by leaving the tape, the program comes to the same end and
  shows the same pointer, cells, input and output;
* when the program comes to an end, so do the commands, in the same way and showing the same, unless they
  leave the tape at a data command of a run that cancels;
* that is the only exception, and no exception at all on a tape without bounds. -/
theorem Program.run_refines_commands (stream : TokenStream) (tokens : List Token)
    (htokens : stream.pending = tokens.map .ok) (hbalanced : Balanced (tokens.map Token.kind)) :
    ∃ program, Program.ofStream stream = .ok program ∧ ∀ policy feed sink,
      (∀ result last, Ends policy (.init (tokens.map Token.kind) feed sink) result last →
        (∀ e, result ≠ .error (.outOfBounds e)) →
        ∃ after, Machine.Halts program (.init policy feed sink) (result, after) ∧
          after.Shows policy last.view) ∧
      (∀ result after, Machine.Halts program (.init policy feed sink) (result, after) →
        (∃ last, Ends policy (.init (tokens.map Token.kind) feed sink) result last ∧
          after.Shows policy last.view) ∨
        RefusedInCancelledRun policy (.init (tokens.map Token.kind) feed sink)) ∧
      (policy = .bothUnbounded ∨
          ¬ RefusedInCancelledRun policy (.init (tokens.map Token.kind) feed sink) →
        ∀ result view,
          (∃ last, Ends policy (.init (tokens.map Token.kind) feed sink) result last ∧
            last.view = view) ↔
          ∃ after, Machine.Halts program (.init policy feed sink) (result, after) ∧
            after.Shows policy view) := by
  obtain ⟨program, hspells⟩ := exists_spells_of_balanced hbalanced
  refine ⟨program, Program.ofStream_of_spells htokens hspells, fun policy feed sink => ⟨?_, ?_, ?_⟩⟩
  · intro result last hends hinside
    exact (hspells.halts_of_ends hends).resolve_right fun hrefused => hinside _ hrefused.1
  · intro result after hhalts
    exact hspells.ends_of_halts hhalts
  · intro hexcept result view
    have hnever : ¬ RefusedInCancelledRun policy (.init (tokens.map Token.kind) feed sink) := by
      rcases hexcept with rfl | hnever
      · exact not_refused_of_unbounded _
      · exact hnever
    constructor
    · rintro ⟨last, hends, rfl⟩
      refine (hspells.halts_of_ends hends).resolve_right ?_
      rintro ⟨rfl, hcancelled⟩
      exact hnever ⟨last, hends, hcancelled⟩
    · rintro ⟨after, hhalts, hshows⟩
      obtain ⟨last, hends, hlast⟩ := (hspells.ends_of_halts hhalts).resolve_right hnever
      exact ⟨last, hends, hlast.unique hshows⟩

/-- The commands of `+[.-]` write a one and come to their end, so the program that is read from them does. -/
theorem Program.countdown_refines_commands :
    ∃ program, Program.ofStream ⟨[.ok ⟨.dataUp, "+", 0⟩, .ok ⟨.loopHead, "[", 1⟩,
        .ok ⟨.output, ".", 2⟩, .ok ⟨.dataDown, "-", 3⟩, .ok ⟨.loopTail, "]", 4⟩], 5⟩ = .ok program ∧
      ∃ after, Machine.Halts program (.init (.fixed 1) ⟨[], 0, none⟩ {}) (.ok (), after) ∧
        after.sink.written = #[1] := by
  obtain ⟨program, hprogram, hruns⟩ := Program.run_refines_commands ⟨_, 5⟩
    [⟨.dataUp, "+", 0⟩, ⟨.loopHead, "[", 1⟩, ⟨.output, ".", 2⟩, ⟨.dataDown, "-", 3⟩,
      ⟨.loopTail, "]", 4⟩] rfl (by decide)
  refine ⟨program, hprogram, ?_⟩
  obtain ⟨after, hhalts, hshows⟩ :=
    (hruns (.fixed 1) ⟨[], 0, none⟩ {}).1 (.ok ()) _ ⟨8, rfl⟩ (by simp)
  refine ⟨after, hhalts, ?_⟩
  rw [hshows.sink_eq]
  rfl

-- the exception is there: on a tape without cells, `+-` is refused at once
example : RefusedInCancelledRun (.fixed 0) (.init [.dataUp, .dataDown] ⟨[], 0, none⟩ {}) :=
  ⟨.init [.dataUp, .dataDown] ⟨[], 0, none⟩ {}, ⟨1, rfl⟩, ⟨.dataUp, rfl, rfl⟩, rfl⟩

end TapeLang
