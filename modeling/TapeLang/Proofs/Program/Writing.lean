import TapeLang.Proofs.Lexer.Stream
import TapeLang.Proofs.Program.Acceptance

/-!
# Writing programs

The reader leaves out a run that cancels, and it does so without looking back: the runs before and
behind it are not joined.  Two instructions of one axis can therefore stand next to each other in a
program, but none that goes nowhere.

That is all there is to say about which programs are read.  `Instr.commands` writes an instruction down,
with a cancelled run of the *other* axis behind every run.  Such a separator keeps two runs of one axis
apart; in front of a run of its own axis it becomes a part of that run and adds nothing to it.

* `Instr.Reduced` — no move and no addition by zero, at any depth.
* `Spells.reduced` — what is read is reduced, whatever the tokens are.
* `Spells.prepend_cancelled` — a cancelled run in front changes nothing.
* `Program.Reduced.spells` — what is written spells the program it was written for.
* **`Program.reduced_iff_read`** — the programs that are read are the reduced ones.
-/

namespace TapeLang

/-! ## Programs without zeros -/

/-- The instruction holds no move by zero and no addition of zero, and no run that cancels. -/
inductive Instr.Reduced : Instr → Prop
  | move {n : Int} (hn : n ≠ 0) : Reduced (.act (.move n))
  | add {n : Int} (hn : n ≠ 0) : Reduced (.act (.add n))
  | output : Reduced (.act .output)
  | input : Reduced (.act .input)
  | loop {body : List Instr} (hbody : ∀ instr ∈ body, Reduced instr) : Reduced (.loop body)

def Program.Reduced (program : Program) : Prop :=
  ∀ instr ∈ program, instr.Reduced

lemma Program.reduced_ofRun (axis : Axis) (distance : Int) :
    Program.Reduced (ofRun axis distance) := by
  unfold ofRun
  split_ifs with h
  · simp [Reduced]
  · cases axis with
    | pointer => simpa [Reduced, Axis.action] using Instr.Reduced.move h
    | data => simpa [Reduced, Axis.action] using Instr.Reduced.add h

/-- What commands spell is reduced. -/
theorem Spells.reduced {commands : List TokenKind} {program : Program} (h : Spells commands program) :
    program.Reduced := by
  induction h with
  | nil => simp [Program.Reduced]
  | @run axis first run rest program _ _ _ ih =>
    intro instr hinstr
    rcases List.mem_append.mp hinstr with hrun | hrest
    · exact Program.reduced_ofRun axis _ instr hrun
    · exact ih instr hrest
  | output _ ih => exact List.forall_mem_cons.mpr ⟨.output, ih⟩
  | input _ ih => exact List.forall_mem_cons.mpr ⟨.input, ih⟩
  | loop _ _ ihbody ih => exact List.forall_mem_cons.mpr ⟨.loop ihbody, ih⟩

/-- A program that is read is spelled by the tokens it was read from. -/
lemma Program.exists_spells_of_ofStream {stream : TokenStream} {program : Program}
    (h : ofStream stream = .ok program) :
    ∃ tokens : List Token, stream.pending = tokens.map .ok ∧ Spells (tokens.map Token.kind) program := by
  rcases stream.decided with ⟨tokens, hpending, hbalanced⟩ | ⟨tail, htail⟩ | ⟨e, he⟩ | hunclosed
  · obtain ⟨spelled, hspells⟩ := exists_spells_of_balanced hbalanced
    rw [ofStream_of_spells hpending hspells, Except.ok.injEq] at h
    exact ⟨tokens, hpending, h ▸ hspells⟩
  · simp [ofStream_of_unopened htail] at h
  · simp [ofStream_of_interrupted he] at h
  · simp [ofStream_of_unclosed hunclosed] at h

lemma Program.reduced_of_ofStream {stream : TokenStream} {program : Program}
    (h : ofStream stream = .ok program) : program.Reduced := by
  obtain ⟨tokens, -, hspells⟩ := exists_spells_of_ofStream h
  exact hspells.reduced

/-! ## Runs and separators -/

def Axis.other : Axis → Axis
  | .pointer => .data
  | .data => .pointer

/-- The shortest run that goes a distance. -/
def Axis.run (axis : Axis) (distance : Int) : List TokenKind :=
  List.replicate distance.natAbs (if 0 < distance then axis.up else axis.down)

/-- The shortest run that cancels. -/
def Axis.cancelled (axis : Axis) : List TokenKind := [axis.up, axis.down]

namespace Axis

variable (axis : Axis)

lemma axis?_up : axis.up.axis? = some axis := by cases axis <;> rfl

lemma axis?_down : axis.down.axis? = some axis := by cases axis <;> rfl

lemma other_ne : axis.other ≠ axis := by cases axis <;> simp [other]

lemma axis?_of_mem_run (distance : Int) :
    ∀ command ∈ axis.run distance, command.axis? = some axis := by
  intro command hcommand
  rw [run] at hcommand
  rw [List.eq_of_mem_replicate hcommand]
  split_ifs
  · exact axis.axis?_up
  · exact axis.axis?_down

lemma axis?_of_mem_cancelled : ∀ command ∈ axis.cancelled, command.axis? = some axis := by
  simp [cancelled, axis?_up, axis?_down]

lemma net_run (distance : Int) : net (axis.run distance) = distance := by
  have hnet : ∀ count command, net (List.replicate count command) = count * command.delta := by
    intro count command
    induction count with
    | zero => simp
    | succ count ih =>
      rw [List.replicate_succ, net_cons, ih, Int.natCast_succ, Int.add_mul, Int.one_mul, Int.add_comm]
  have hup : axis.up.delta = 1 := by cases axis <;> rfl
  have hdown : axis.down.delta = -1 := by cases axis <;> rfl
  rw [run, hnet]
  split_ifs with hdistance
  · rw [hup]
    omega
  · rw [hdown]
    omega

lemma net_cancelled : net axis.cancelled = 0 := by cases axis <;> rfl

end Axis

/-- Behind a run comes a run of the other axis, so the first one ends there. -/
lemma Axis.endsBefore_other {axis : Axis} {run : List TokenKind}
    (hrun : ∀ command ∈ run, command.axis? = some axis.other) (hne : run ≠ [])
    (rest : List TokenKind) : axis.EndsBefore (run ++ rest) := by
  refine Axis.endsBefore_of_forall ?_ hne rest
  intro command hcommand
  simp [hrun command hcommand, axis.other_ne]

/-- A whole run, whatever its first command is. -/
lemma Spells.prepend_run {axis : Axis} {run rest : List TokenKind} {program : Program}
    (hrun : ∀ command ∈ run, command.axis? = some axis) (hends : axis.EndsBefore rest)
    (h : Spells rest program) : Spells (run ++ rest) (Program.ofRun axis (net run) ++ program) := by
  cases run with
  | nil => simpa [Program.ofRun] using h
  | cons first run => exact .run hrun hends h

/-- **A cancelled run in front changes nothing.**  It vanishes, or it is taken into the run behind it. -/
theorem Spells.prepend_cancelled {axis : Axis} {run commands : List TokenKind} {program : Program}
    (hrun : ∀ command ∈ run, command.axis? = some axis) (hnet : net run = 0)
    (h : Spells commands program) : Spells (run ++ commands) program := by
  by_cases hends : axis.EndsBefore commands
  · simpa [hnet, Program.ofRun] using h.prepend_run hrun hends
  · obtain ⟨next, rest, behind, rfl, rfl, hnext, hends', hbehind⟩ := h.exists_run hends
    have hlonger : ∀ command ∈ run ++ next, command.axis? = some axis := by
      intro command hcommand
      exact (List.mem_append.mp hcommand).elim (hrun command) (hnext command)
    simpa [hnet] using hbehind.prepend_run hlonger hends'

/-! ## Writing a program -/

mutual

/-- The commands of an instruction. -/
def Instr.commands : Instr → List TokenKind
  | .act (.move n) => Axis.pointer.run n ++ Axis.data.cancelled
  | .act (.add n) => Axis.data.run n ++ Axis.pointer.cancelled
  | .act .output => [.output]
  | .act .input => [.input]
  | .act .nop => []
  | .loop body => .loopHead :: (Instr.commandsList body ++ [.loopTail])

/-- The commands of a list of instructions. -/
def Instr.commandsList : List Instr → List TokenKind
  | [] => []
  | instr :: more => instr.commands ++ Instr.commandsList more

end

/-- A run that goes somewhere, and a separator behind it. -/
lemma Spells.prepend_distance {axis : Axis} {distance : Int} (hdistance : distance ≠ 0)
    {commands : List TokenKind} {program : Program} (h : Spells commands program) :
    Spells (axis.run distance ++ axis.other.cancelled ++ commands)
      (.act (axis.action distance) :: program) := by
  have hapart : Spells (axis.other.cancelled ++ commands) program :=
    h.prepend_cancelled axis.other.axis?_of_mem_cancelled axis.other.net_cancelled
  have hends : axis.EndsBefore (axis.other.cancelled ++ commands) :=
    Axis.endsBefore_other axis.other.axis?_of_mem_cancelled (by simp [Axis.cancelled]) commands
  have hrun := hapart.prepend_run (axis.axis?_of_mem_run distance) hends
  simpa [Axis.net_run, Program.ofRun, hdistance] using hrun

/-- Instructions that are spelled in front of anything are spelled one after the other. -/
lemma spells_commandsList {program : Program}
    (h : ∀ instr ∈ program, ∀ {commands : List TokenKind} {behind : Program}, Spells commands behind →
      Spells (instr.commands ++ commands) (instr :: behind)) :
    Spells (Instr.commandsList program) program := by
  induction program with
  | nil => exact .nil
  | cons first more ih =>
    obtain ⟨hfirst, hmore⟩ := List.forall_mem_cons.mp h
    rw [Instr.commandsList]
    exact hfirst (ih hmore)

/-- What is written for an instruction spells it, in front of whatever is spelled behind it. -/
lemma Instr.Reduced.spells {instr : Instr} (h : instr.Reduced) :
    ∀ {commands : List TokenKind} {behind : Program}, Spells commands behind →
      Spells (instr.commands ++ commands) (instr :: behind) := by
  induction h with
  | move hn =>
    intro commands behind hbehind
    exact hbehind.prepend_distance hn
  | add hn =>
    intro commands behind hbehind
    exact hbehind.prepend_distance hn
  | output =>
    intro commands behind hbehind
    exact .output hbehind
  | input =>
    intro commands behind hbehind
    exact .input hbehind
  | loop _ ih =>
    intro commands behind hbehind
    rw [Instr.commands]
    simpa using Spells.loop (spells_commandsList ih) hbehind

/-- **What is written spells the program.** -/
theorem Program.Reduced.spells {program : Program} (h : program.Reduced) :
    Spells (Instr.commandsList program) program :=
  spells_commandsList fun instr hinstr => (h instr hinstr).spells

/-! ## Reading what is written -/

lemma Program.parse_brainfuckText {commands : List TokenKind} {program : Program}
    (h : Spells commands program) :
    Language.brainfuck.lexer.parse (brainfuckText commands) = .ok program := by
  have hstream : Language.brainfuck.lexer.stream (brainfuckText commands) =
      ⟨(brainfuckTokens 0 commands).map .ok, commands.length⟩ := brainfuck_stream commands
  rw [Lexer.parse, hstream]
  exact ofStream_of_spells rfl (by rwa [map_kind_brainfuckTokens])

/-- Two runs of one axis with a cancelled one of the other axis between them are two instructions. -/
lemma Spells.of_runs_apart {axis : Axis} {first between second : List TokenKind}
    (hfirst : ∀ command ∈ first, command.axis? = some axis)
    (hbetween : ∀ command ∈ between, command.axis? = some axis.other)
    (hsecond : ∀ command ∈ second, command.axis? = some axis) (hne : between ≠ [])
    (hcancels : net between = 0) (hn : net first ≠ 0) (hm : net second ≠ 0) :
    Spells (first ++ (between ++ second))
      [.act (axis.action (net first)), .act (axis.action (net second))] := by
  have hlast : Spells second [.act (axis.action (net second))] := by
    simpa [Program.ofRun, hm] using Spells.nil.prepend_run hsecond axis.endsBefore_nil
  have hmiddle := hlast.prepend_cancelled hbetween hcancels
  have hends : axis.EndsBefore (between ++ second) := Axis.endsBefore_other hbetween hne second
  simpa [Program.ofRun, hn] using hmiddle.prepend_run hfirst hends

/-- **The programs that are read are the reduced ones.**  A program has a source in Brainfuck exactly if
no move and no addition in it, at any depth, goes nowhere.  Nothing else is ever read, from whatever
tokens a lexer may come up with.  And two runs of one axis with a cancelled run of the other axis between
them are read as two instructions next to each other. -/
theorem Program.reduced_iff_read :
    (∀ program : Program,
      (∃ source, Language.brainfuck.lexer.parse source = .ok program) ↔ program.Reduced) ∧
    (∀ (stream : TokenStream) (program : Program), ofStream stream = .ok program → program.Reduced) ∧
    ∀ (axis : Axis) (first between second : List TokenKind),
      (∀ command ∈ first, command.axis? = some axis) →
      (∀ command ∈ between, command.axis? = some axis.other) →
      (∀ command ∈ second, command.axis? = some axis) →
      between ≠ [] → net between = 0 → net first ≠ 0 → net second ≠ 0 →
        Language.brainfuck.lexer.parse (brainfuckText (first ++ (between ++ second))) =
          .ok [.act (axis.action (net first)), .act (axis.action (net second))] := by
  refine ⟨fun program => ⟨?_, fun h => ⟨_, parse_brainfuckText h.spells⟩⟩, ?_, ?_⟩
  · rintro ⟨source, hparse⟩
    exact reduced_of_ofStream hparse
  · intro stream program hread
    exact reduced_of_ofStream hread
  · intro axis first between second hfirst hbetween hsecond hne hcancels hn hm
    exact parse_brainfuckText
      (Spells.of_runs_apart hfirst hbetween hsecond hne hcancels hn hm)

/-- Moves to the right and to the left next to each other, and in a loop two additions, one of them of
more than a cell can hold.  The program has a source; and `>+->>` is read as two moves. -/
theorem Program.two_moves_read :
    Program.Reduced [.act (.move 1), .act (.move (-2)), .loop [.act (.add 300), .act (.add (-1))]] ∧
    (∃ source, Language.brainfuck.lexer.parse source =
      .ok [.act (.move 1), .act (.move (-2)), .loop [.act (.add 300), .act (.add (-1))]]) ∧
    Language.brainfuck.lexer.parse ">+->>" = .ok [.act (.move 1), .act (.move 2)] := by
  have hbody : ∀ instr ∈ ([.act (.add 300), .act (.add (-1))] : Program), instr.Reduced := by
    simp only [List.mem_cons, List.not_mem_nil, or_false, forall_eq_or_imp, forall_eq]
    exact ⟨.add (by decide), .add (by decide)⟩
  have hreduced : Program.Reduced
      [.act (.move 1), .act (.move (-2)), .loop [.act (.add 300), .act (.add (-1))]] := by
    simp only [Program.Reduced, List.mem_cons, List.not_mem_nil, or_false, forall_eq_or_imp,
      forall_eq]
    exact ⟨.move (by decide), .move (by decide), .loop hbody⟩
  refine ⟨hreduced, (reduced_iff_read.1 _).mpr hreduced, ?_⟩
  exact reduced_iff_read.2.2 .pointer [.pointerUp] [.dataUp, .dataDown] [.pointerUp, .pointerUp]
    (by decide) (by decide) (by decide) (by decide) (by decide) (by decide) (by decide)

end TapeLang
