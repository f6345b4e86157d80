import TapeLang.Proofs.Program.Reading

/-!
# The grammar of programs

The reader keeps a stack of unfinished bodies and folds runs as they come.  Here is what it reads, said
without a stack: `Spells commands program` holds when the commands are units one after the other, each
unit a whole run, a single command or a loop, and the program has an instruction for each of them
except for the runs that cancel.

* `Balanced`: every loop that is opened is closed, and none is closed that is not open.
* `exists_spells_of_balanced`: balanced commands spell a program.
* `Spells.readAll`: the reader finds the program that they spell, inside any loops that are open.
* **`Program.ofStream_of_spells`**: so a stream without errors is read as the program that its commands
  spell.
-/

namespace TapeLang

/-- The first of the commands, if there is one, does not go on along the axis. -/
def Axis.EndsBefore (axis : Axis) (commands : List TokenKind) : Prop :=
  ∀ command, commands.head? = some command → command.axis? ≠ some axis

namespace Axis

lemma endsBefore_nil (axis : Axis) : axis.EndsBefore [] := by
  intro command h
  simp at h

lemma endsBefore_cons {axis : Axis} {command : TokenKind} {commands : List TokenKind} :
    axis.EndsBefore (command :: commands) ↔ command.axis? ≠ some axis := by
  constructor
  · intro h
    exact h command rfl
  · intro h next hnext
    rw [List.head?_cons, Option.some.injEq] at hnext
    rwa [← hnext]

lemma EndsBefore.append {axis : Axis} {first second : List TokenKind} (hfirst : axis.EndsBefore first)
    (hsecond : axis.EndsBefore second) : axis.EndsBefore (first ++ second) := by
  cases first with
  | nil => exact hsecond
  | cons command rest => exact endsBefore_cons.mpr (endsBefore_cons.mp hfirst)

lemma endsBefore_of_forall {axis : Axis} {first : List TokenKind}
    (h : ∀ command ∈ first, command.axis? ≠ some axis) (hne : first ≠ []) (second : List TokenKind) :
    axis.EndsBefore (first ++ second) := by
  cases first with
  | nil => exact absurd rfl hne
  | cons command rest => exact endsBefore_cons.mpr (h command List.mem_cons_self)

lemma EndsBefore.takeWhile_eq_nil {axis : Axis} {commands : List TokenKind}
    (h : axis.EndsBefore commands) : commands.takeWhile (·.axis? = some axis) = [] := by
  cases commands with
  | nil => rfl
  | cons command rest => exact List.takeWhile_cons_of_neg (by simpa using endsBefore_cons.mp h)

end Axis

lemma Program.reverse_ofRun (axis : Axis) (distance : Int) :
    (ofRun axis distance).reverse = ofRun axis distance := by
  unfold ofRun
  split_ifs <;> rfl

/-! ## Spelling a program -/

/-- The commands spell the program. -/
inductive Spells : List TokenKind → Program → Prop where
  | nil : Spells [] []
  /-- A run is as long as can be. -/
  | run {axis : Axis} {first : TokenKind} {run rest : List TokenKind} {program : Program}
      (hrun : ∀ command ∈ first :: run, command.axis? = some axis) (hends : axis.EndsBefore rest)
      (hrest : Spells rest program) :
      Spells (first :: (run ++ rest)) (Program.ofRun axis (net (first :: run)) ++ program)
  | output {rest : List TokenKind} {program : Program} (hrest : Spells rest program) :
      Spells (.output :: rest) (.act .output :: program)
  | input {rest : List TokenKind} {program : Program} (hrest : Spells rest program) :
      Spells (.input :: rest) (.act .input :: program)
  | loop {inside rest : List TokenKind} {body program : Program} (hinside : Spells inside body)
      (hrest : Spells rest program) :
      Spells (.loopHead :: (inside ++ .loopTail :: rest)) (.loop body :: program)

/-- Commands that go on along an axis begin with a run on it. -/
lemma Spells.exists_run {axis : Axis} {commands : List TokenKind} {program : Program}
    (h : Spells commands program) (hgoes : ¬ axis.EndsBefore commands) :
    ∃ run rest program', commands = run ++ rest ∧
      program = Program.ofRun axis (net run) ++ program' ∧
      (∀ command ∈ run, command.axis? = some axis) ∧ axis.EndsBefore rest ∧ Spells rest program' := by
  cases h with
  | nil => exact absurd (Axis.endsBefore_nil axis) hgoes
  | output | input | loop =>
    exact absurd (Axis.endsBefore_cons.mpr (by simp [TokenKind.axis?])) hgoes
  | @run axis' first run rest program hrun hends hrest =>
    have hfirst : first.axis? = some axis' := hrun first List.mem_cons_self
    have haxis : first.axis? = some axis := by
      by_contra hne
      exact hgoes (Axis.endsBefore_cons.mpr hne)
    rw [hfirst, Option.some.injEq] at haxis
    subst haxis
    exact ⟨first :: run, rest, program, rfl, rfl, hrun, hends, hrest⟩

/-- One more command of an axis begins a run, or makes the first one longer. -/
lemma Spells.exists_cons_axis {axis : Axis} {first : TokenKind} {commands : List TokenKind}
    {program : Program} (hfirst : first.axis? = some axis) (h : Spells commands program) :
    ∃ longer, Spells (first :: commands) longer := by
  by_cases hends : axis.EndsBefore commands
  · have halone : Spells (first :: ([] ++ commands)) _ := .run (by simpa using hfirst) hends h
    exact ⟨_, halone⟩
  · obtain ⟨run, rest, program', rfl, -, hrun, hends', hrest⟩ := h.exists_run hends
    exact ⟨_, .run (List.forall_mem_cons.mpr ⟨hfirst, hrun⟩) hends' hrest⟩

/-! ## Balance -/

/-- The number of loops that are open after the commands, given how many are open before them; `none`
when a loop is closed that is not open. -/
def openLoops : Nat → List TokenKind → Option Nat
  | loops, [] => some loops
  | loops, .loopHead :: rest => openLoops (loops + 1) rest
  | 0, .loopTail :: _ => none
  | loops + 1, .loopTail :: rest => openLoops loops rest
  | loops, _ :: rest => openLoops loops rest

/-- Heads and tails of loops match. -/
def Balanced (commands : List TokenKind) : Prop :=
  openLoops 0 commands = some 0

instance (commands : List TokenKind) : Decidable (Balanced commands) :=
  inferInstanceAs (Decidable (openLoops 0 commands = some 0))

/-- The commands close all loops, and what they begin with spells a program: up to the end when no loop
is open, and otherwise up to the tail of the innermost one. -/
def Closes (loops : Nat) (commands : List TokenKind) : Prop :=
  ∃ program spelled rest, Spells spelled program ∧ commands = spelled ++ rest ∧
    ((loops = 0 ∧ rest = []) ∨
      ∃ outer behind, loops = outer + 1 ∧ rest = .loopTail :: behind ∧
        openLoops outer behind = some 0)

lemma Closes.prepend {loops : Nat} {commands : List TokenKind} (h : Closes loops commands)
    (unit : List TokenKind)
    (hunit : ∀ spelled program, Spells spelled program → ∃ longer, Spells (unit ++ spelled) longer) :
    Closes loops (unit ++ commands) := by
  obtain ⟨program, spelled, rest, hspells, rfl, hrest⟩ := h
  obtain ⟨longer, hlonger⟩ := hunit spelled program hspells
  exact ⟨longer, unit ++ spelled, rest, hlonger, (List.append_assoc ..).symm, hrest⟩

lemma closes_of_openLoops {loops : Nat} {commands : List TokenKind}
    (h : openLoops loops commands = some 0) : Closes loops commands := by
  induction hlength : commands.length using Nat.strongRecOn generalizing loops commands with
  | ind length ih =>
    cases commands with
    | nil =>
      rw [openLoops, Option.some.injEq] at h
      exact ⟨[], [], [], .nil, rfl, .inl ⟨h, rfl⟩⟩
    | cons first commands =>
      have hshorter : commands.length < length := by
        rw [← hlength, List.length_cons]
        omega
      cases first with
      | pointerUp | pointerDown | dataUp | dataDown =>
        have hrest : openLoops loops commands = some 0 := h
        exact (ih _ hshorter hrest rfl).prepend [_] fun spelled program hspells =>
          hspells.exists_cons_axis rfl
      | output =>
        have hrest : openLoops loops commands = some 0 := h
        exact (ih _ hshorter hrest rfl).prepend [_] fun spelled program hspells =>
          ⟨_, .output hspells⟩
      | input =>
        have hrest : openLoops loops commands = some 0 := h
        exact (ih _ hshorter hrest rfl).prepend [_] fun spelled program hspells =>
          ⟨_, .input hspells⟩
      | loopHead =>
        -- the body up to its own tail, and then what stands behind the loop
        have hdeeper : openLoops (loops + 1) commands = some 0 := h
        obtain ⟨body, inside, rest, hinside, rfl, ⟨hloops, -⟩ | ⟨outer, behind, hloops, rfl, hbehind⟩⟩ :=
          ih _ hshorter hdeeper rfl
        · omega
        · have hlater : behind.length < length := by
            rw [List.length_append, List.length_cons] at hshorter
            omega
          obtain rfl : outer = loops := by omega
          have hcloses : Closes outer ((.loopHead :: (inside ++ [.loopTail])) ++ behind) := by
            refine (ih _ hlater hbehind rfl).prepend _ fun spelled program hspells => ?_
            exact ⟨_, by simpa using Spells.loop hinside hspells⟩
          simpa using hcloses
      | loopTail =>
        cases loops with
        | zero => simp [openLoops] at h
        | succ outer => exact ⟨[], [], _, .nil, rfl, .inr ⟨outer, commands, rfl, rfl, h⟩⟩

/-- **Balanced commands spell a program.** -/
theorem exists_spells_of_balanced {commands : List TokenKind} (h : Balanced commands) :
    ∃ program, Spells commands program := by
  obtain ⟨program, spelled, rest, hspells, rfl, ⟨-, rfl⟩ | ⟨outer, behind, hloops, -, -⟩⟩ :=
    closes_of_openLoops h
  · exact ⟨program, by rwa [List.append_nil]⟩
  · omega

/-! ## Reading what is spelled -/

lemma Pushback.leaves_append {axis : Axis} {tokens : List Token} {rest : List Reading}
    (htokens : axis.EndsBefore (tokens.map Token.kind)) (hrest : Leaves axis rest) :
    Leaves axis (tokens.map .ok ++ rest) := by
  cases tokens with
  | nil => exact hrest
  | cons first more =>
    intro token htoken
    rw [List.map_cons, List.cons_append, List.head?_cons, Option.some.injEq, Except.ok.injEq] at htoken
    rw [← htoken]
    exact Axis.endsBefore_cons.mp htokens

/-- **The reader finds what is spelled**, whatever it has read before and whatever loops are open, as
long as nothing behind can make the last run longer. -/
theorem Spells.readAll {commands : List TokenKind} {program : Program} (h : Spells commands program)
    {tokens : List Token} (hkinds : tokens.map Token.kind = commands) (endPos : Nat)
    (body : List Instr) (outer : List (List Instr)) {rest : List Reading}
    (hrest : ∀ axis, Pushback.Leaves axis rest) :
    Program.readAll endPos body outer (tokens.map .ok ++ rest) =
      Program.readAll endPos (program.reverse ++ body) outer rest := by
  induction h generalizing tokens body outer rest with
  | nil =>
    rw [List.map_eq_nil_iff] at hkinds
    subst hkinds
    rfl
  | @run axis first run behind program hrun hends hbehind ih =>
    obtain ⟨firstToken, others, rfl, rfl, hothers⟩ := List.map_eq_cons_iff.mp hkinds
    obtain ⟨runTokens, more, rfl, rfl, rfl⟩ := List.map_eq_append_iff.mp hothers
    have hmore : Pushback.Leaves axis (more.map .ok ++ rest) :=
      Pushback.leaves_append hends (hrest axis)
    obtain ⟨hfirst, hrun⟩ := List.forall_mem_cons.mp hrun
    have hrunTokens : ∀ token ∈ runTokens, token.kind.axis? = some axis := fun token htoken =>
      hrun token.kind (List.mem_map_of_mem htoken)
    rw [List.map_cons, List.map_append, List.cons_append, List.append_assoc,
      Program.readAll_run hfirst hrunTokens hmore, ih rfl _ _ hrest, List.reverse_append,
      List.append_assoc, Program.reverse_ofRun]
  | output hbehind ih =>
    obtain ⟨token, more, rfl, hkind, hmore⟩ := List.map_eq_cons_iff.mp hkinds
    rw [List.map_cons, List.cons_append, Program.readAll_output hkind, ih hmore _ _ hrest]
    simp
  | input hbehind ih =>
    obtain ⟨token, more, rfl, hkind, hmore⟩ := List.map_eq_cons_iff.mp hkinds
    rw [List.map_cons, List.cons_append, Program.readAll_input hkind, ih hmore _ _ hrest]
    simp
  | loop hinside hbehind ihinside ihbehind =>
    obtain ⟨head, others, rfl, hhead, hothers⟩ := List.map_eq_cons_iff.mp hkinds
    obtain ⟨insideTokens, closing, rfl, hinsideTokens, hclosing⟩ := List.map_eq_append_iff.mp hothers
    obtain ⟨tail, more, rfl, htail, hmore⟩ := List.map_eq_cons_iff.mp hclosing
    have htailLeaves : ∀ axis, Pushback.Leaves axis (.ok tail :: (more.map .ok ++ rest)) := by
      intro axis token htoken
      rw [List.head?_cons, Option.some.injEq, Except.ok.injEq] at htoken
      rw [← htoken, htail]
      simp [TokenKind.axis?]
    rw [List.map_cons, List.map_append, List.map_cons, List.cons_append, List.append_assoc,
      List.cons_append, Program.readAll_head hhead, ihinside hinsideTokens _ _ htailLeaves,
      Program.readAll_tail htail, ihbehind hmore _ _ hrest]
    simp

/-- A stream without errors is read as the program that its commands spell. -/
theorem Program.ofStream_of_spells {stream : TokenStream} {tokens : List Token} {program : Program}
    (htokens : stream.pending = tokens.map .ok) (h : Spells (tokens.map Token.kind) program) :
    Program.ofStream stream = .ok program := by
  have hnothing : ∀ axis, Pushback.Leaves axis [] := fun axis token htoken => by simp at htoken
  have hread := h.readAll rfl stream.endPos [] [] hnothing
  rw [List.append_nil, List.append_nil, readAll_nil, List.reverse_reverse] at hread
  rw [ofStream_eq_readAll, htokens, hread]

end TapeLang
