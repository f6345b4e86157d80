import TapeLang.Proofs.Program.Grammar

/-!
# Which token streams are programs

A stream is read from left to right, and the number of open loops is all that decides how reading it
ends.  A stream can come to one of four things, told apart by what stands first in it: a tail that
closes no loop, an error of the lexer, the end of the source inside a loop, or the end of the source
outside of all loops.

* `TokenStream.IsBalanced`, `TokenStream.Unopened`, `TokenStream.Interrupted`, `TokenStream.Unclosed`:
  the four.  `TokenStream.decided` says that there are no others.
* `Program.exists_readAll_of_openLoops`: the reader has as many unfinished bodies as there are open
  loops.  It reads in runs, so the induction goes from run to run and not from token to token.
* **`Program.ofStream_verdict`**: the reader accepts the balanced streams, and refuses any other for the
  first thing that is wrong with it.
-/

namespace TapeLang

/-! ## Counting open loops -/

lemma openLoops_cons_of_axis? {axis : Axis} {command : TokenKind} (h : command.axis? = some axis)
    (loops : Nat) (rest : List TokenKind) :
    openLoops loops (command :: rest) = openLoops loops rest := by
  cases command with
  | output | input | loopHead | loopTail => simp [TokenKind.axis?] at h
  | pointerUp | pointerDown | dataUp | dataDown => rfl

lemma openLoops_append_of_axis? {axis : Axis} {run : List TokenKind}
    (h : ∀ command ∈ run, command.axis? = some axis) (loops : Nat) (rest : List TokenKind) :
    openLoops loops (run ++ rest) = openLoops loops rest := by
  induction run with
  | nil => rfl
  | cons command run ih =>
    obtain ⟨hcommand, hrun⟩ := List.forall_mem_cons.mp h
    rw [List.cons_append, openLoops_cons_of_axis? hcommand, ih hrun]

/-- The count fails at a tail before which every loop had been closed. -/
lemma exists_tail_of_openLoops_eq_none {loops : Nat} {commands : List TokenKind}
    (h : openLoops loops commands = none) :
    ∃ before after, commands = before ++ .loopTail :: after ∧ openLoops loops before = some 0 := by
  induction commands generalizing loops with
  | nil => simp [openLoops] at h
  | cons command commands ih =>
    cases command with
    | pointerUp | pointerDown | dataUp | dataDown | output | input =>
      have hrest : openLoops loops commands = none := h
      obtain ⟨before, after, rfl, hbefore⟩ := ih hrest
      exact ⟨_ :: before, after, rfl, hbefore⟩
    | loopHead =>
      have hdeeper : openLoops (loops + 1) commands = none := h
      obtain ⟨before, after, rfl, hbefore⟩ := ih hdeeper
      exact ⟨_ :: before, after, rfl, hbefore⟩
    | loopTail =>
      cases loops with
      | zero => exact ⟨[], commands, rfl, rfl⟩
      | succ outer =>
        have houter : openLoops outer commands = none := h
        obtain ⟨before, after, rfl, hbefore⟩ := ih houter
        exact ⟨_ :: before, after, rfl, hbefore⟩

/-! ## What a stream comes to -/

namespace TokenStream

/-- There is no error in the stream, and its heads and tails match. -/
def IsBalanced (stream : TokenStream) : Prop :=
  ∃ tokens : List Token, stream.pending = tokens.map .ok ∧ Balanced (tokens.map Token.kind)

/-- The tail is the first thing wrong with the stream: no loop is open where it stands. -/
def Unopened (stream : TokenStream) (tail : Token) : Prop :=
  ∃ (before : List Token) (after : List Reading), stream.pending = before.map .ok ++ .ok tail :: after ∧
    openLoops 0 (before.map Token.kind) = some 0 ∧ tail.kind = .loopTail

/-- The error is the first thing wrong with the stream, whatever loops are open where it stands. -/
def Interrupted (stream : TokenStream) (e : ParseError) : Prop :=
  ∃ (before : List Token) (after : List Reading) (loops : Nat),
    stream.pending = before.map .ok ++ .error e :: after ∧ openLoops 0 (before.map Token.kind) = some loops

/-- Nothing is wrong with the stream but that it ends inside a loop. -/
def Unclosed (stream : TokenStream) : Prop :=
  ∃ (tokens : List Token) (loops : Nat), stream.pending = tokens.map .ok ∧
    openLoops 0 (tokens.map Token.kind) = some (loops + 1)

/-- The tokens in front of the first error, and that error if there is one. -/
lemma exists_tokens (readings : List Reading) :
    ∃ tokens : List Token, readings = tokens.map .ok ∨
      ∃ e after, readings = tokens.map .ok ++ .error e :: after := by
  induction readings with
  | nil => exact ⟨[], .inl rfl⟩
  | cons reading readings ih =>
    cases reading with
    | error e => exact ⟨[], .inr ⟨e, readings, rfl⟩⟩
    | ok token =>
      obtain ⟨tokens, rfl | ⟨e, after, rfl⟩⟩ := ih
      · exact ⟨token :: tokens, .inl rfl⟩
      · exact ⟨token :: tokens, .inr ⟨e, after, rfl⟩⟩

lemma unopened_of_openLoops_eq_none {stream : TokenStream} {tokens : List Token}
    {after : List Reading} (hpending : stream.pending = tokens.map .ok ++ after)
    (h : openLoops 0 (tokens.map Token.kind) = none) : ∃ tail, stream.Unopened tail := by
  obtain ⟨before, later, hkinds, hbefore⟩ := exists_tail_of_openLoops_eq_none h
  obtain ⟨first, others, rfl, rfl, hothers⟩ := List.map_eq_append_iff.mp hkinds
  obtain ⟨tail, more, rfl, htail, -⟩ := List.map_eq_cons_iff.mp hothers
  refine ⟨tail, first, more.map .ok ++ after, ?_, hbefore, htail⟩
  rw [hpending, List.map_append, List.map_cons, List.append_assoc, List.cons_append]

/-- **There are four kinds of streams.** -/
theorem decided (stream : TokenStream) :
    stream.IsBalanced ∨ (∃ tail, stream.Unopened tail) ∨ (∃ e, stream.Interrupted e) ∨
      stream.Unclosed := by
  obtain ⟨tokens, hpending | ⟨e, after, hpending⟩⟩ := exists_tokens stream.pending
  · cases hloops : openLoops 0 (tokens.map Token.kind) with
    | none =>
      have happend : stream.pending = tokens.map .ok ++ [] := by rw [hpending, List.append_nil]
      exact .inr (.inl (unopened_of_openLoops_eq_none happend hloops))
    | some loops =>
      cases loops with
      | zero => exact .inl ⟨tokens, hpending, hloops⟩
      | succ loops => exact .inr (.inr (.inr ⟨tokens, loops, hpending, hloops⟩))
  · cases hloops : openLoops 0 (tokens.map Token.kind) with
    | none => exact .inr (.inl (unopened_of_openLoops_eq_none hpending hloops))
    | some loops => exact .inr (.inr (.inl ⟨e, tokens, after, loops, hpending, hloops⟩))

end TokenStream

/-! ## Reading up to the deciding place -/

/-- The tokens of an axis that come first. -/
lemma Axis.exists_run (axis : Axis) (tokens : List Token) :
    ∃ run rest, tokens = run ++ rest ∧ (∀ token ∈ run, token.kind.axis? = some axis) ∧
      axis.EndsBefore (rest.map Token.kind) := by
  induction tokens with
  | nil => exact ⟨[], [], rfl, by simp, axis.endsBefore_nil⟩
  | cons token tokens ih =>
    by_cases htoken : token.kind.axis? = some axis
    · obtain ⟨run, rest, rfl, hrun, hrest⟩ := ih
      exact ⟨token :: run, rest, rfl, List.forall_mem_cons.mpr ⟨htoken, hrun⟩, hrest⟩
    · exact ⟨[], token :: tokens, rfl, by simp, Axis.endsBefore_cons.mpr htoken⟩

namespace Program

variable {rest : List Reading}

/-- **The reader keeps count.**  Where the tokens leave a number of loops open, the reader comes to what
stands behind them with that number of unfinished bodies around the innermost one. -/
lemma exists_readAll_of_openLoops (endPos : Nat) {tokens : List Token} {loops : Nat}
    (body : List Instr) (outer : List (List Instr))
    (h : openLoops outer.length (tokens.map Token.kind) = some loops)
    (hrest : ∀ axis, Pushback.Leaves axis rest) :
    ∃ body' outer', outer'.length = loops ∧
      readAll endPos body outer (tokens.map .ok ++ rest) = readAll endPos body' outer' rest := by
  induction hlength : tokens.length using Nat.strongRecOn generalizing tokens body outer with
  | ind length ih =>
    cases tokens with
    | nil =>
      rw [List.map_nil, openLoops, Option.some.injEq] at h
      exact ⟨body, outer, h, rfl⟩
    | cons token tokens =>
      have hshorter : tokens.length < length := by
        rw [← hlength, List.length_cons]
        omega
      rw [List.map_cons] at h
      rw [List.map_cons, List.cons_append]
      -- a token of an axis takes its whole run along
      have hrun : ∀ axis, token.kind.axis? = some axis →
          ∃ body' outer', outer'.length = loops ∧
            readAll endPos body outer (.ok token :: (tokens.map .ok ++ rest)) =
              readAll endPos body' outer' rest := by
        intro axis haxis
        obtain ⟨run, more, rfl, hrun, hmore⟩ := axis.exists_run tokens
        have hkinds : ∀ command ∈ run.map Token.kind, command.axis? = some axis :=
          List.forall_mem_map.mpr hrun
        rw [openLoops_cons_of_axis? haxis, List.map_append, openLoops_append_of_axis? hkinds] at h
        rw [List.map_append, List.append_assoc,
          readAll_run haxis hrun (Pushback.leaves_append hmore (hrest axis))]
        have hlater : more.length < length := by
          rw [List.length_append] at hshorter
          omega
        exact ih _ hlater _ _ h rfl
      cases hkind : token.kind with
      | pointerUp => exact hrun .pointer (by rw [hkind]; rfl)
      | pointerDown => exact hrun .pointer (by rw [hkind]; rfl)
      | dataUp => exact hrun .data (by rw [hkind]; rfl)
      | dataDown => exact hrun .data (by rw [hkind]; rfl)
      | output =>
        rw [hkind] at h
        rw [readAll_output hkind]
        exact ih _ hshorter _ _ h rfl
      | input =>
        rw [hkind] at h
        rw [readAll_input hkind]
        exact ih _ hshorter _ _ h rfl
      | loopHead =>
        rw [hkind] at h
        rw [readAll_head hkind]
        exact ih _ hshorter _ _ h rfl
      | loopTail =>
        rw [hkind] at h
        cases outer with
        | nil => simp [openLoops] at h
        | cons parent outer =>
          rw [readAll_tail hkind]
          exact ih _ hshorter _ _ h rfl

/-! ## The four verdicts -/

variable {stream : TokenStream}

lemma ofStream_of_isBalanced (h : stream.IsBalanced) : ∃ program, ofStream stream = .ok program := by
  obtain ⟨tokens, hpending, hbalanced⟩ := h
  obtain ⟨program, hspells⟩ := exists_spells_of_balanced hbalanced
  exact ⟨program, ofStream_of_spells hpending hspells⟩

lemma ofStream_of_unopened {tail : Token} (h : stream.Unopened tail) :
    ofStream stream = .error (.source ⟨.unopenedLoop, tail.pos⟩) := by
  obtain ⟨before, after, hpending, hbefore, htail⟩ := h
  have hleaves : ∀ axis, Pushback.Leaves axis (.ok tail :: after) := by
    intro axis token htoken
    rw [List.head?_cons, Option.some.injEq, Except.ok.injEq] at htoken
    rw [← htoken, htail]
    simp [TokenKind.axis?]
  obtain ⟨body, outer, houter, hread⟩ :=
    exists_readAll_of_openLoops stream.endPos [] [] hbefore hleaves
  obtain rfl := List.length_eq_zero_iff.mp houter
  rw [ofStream_eq_readAll, hpending, hread, readAll_unopened htail]

lemma ofStream_of_interrupted {e : ParseError} (h : stream.Interrupted e) :
    ofStream stream = .error (.source e) := by
  obtain ⟨before, after, loops, hpending, hbefore⟩ := h
  have hleaves : ∀ axis, Pushback.Leaves axis (.error e :: after) := by
    intro axis token htoken
    simp at htoken
  obtain ⟨body, outer, -, hread⟩ :=
    exists_readAll_of_openLoops stream.endPos [] [] hbefore hleaves
  rw [ofStream_eq_readAll, hpending, hread, readAll_error]

lemma ofStream_of_unclosed (h : stream.Unclosed) :
    ofStream stream = .error (.source ⟨.unclosedLoop, stream.endPos⟩) := by
  obtain ⟨tokens, loops, hpending, hloops⟩ := h
  have hleaves : ∀ axis, Pushback.Leaves axis [] := by
    intro axis token htoken
    simp at htoken
  obtain ⟨body, outer, houter, hread⟩ :=
    exists_readAll_of_openLoops stream.endPos [] [] hloops hleaves
  rw [List.append_nil] at hread
  obtain ⟨parent, outer, rfl⟩ := List.exists_cons_of_length_eq_add_one houter
  rw [ofStream_eq_readAll, hpending, hread, readAll_unclosed]

/-- **The reader accepts the balanced streams, and no others.**  Whatever else a stream is, it is refused
for the first thing that is wrong with it: for a tail that closes no loop with the position of that
tail, for an error of the lexer with that error, and for the end of the source inside a loop with the
position of the end.  `Lexer.parse` is the reader on the stream of a source text. -/
theorem ofStream_verdict (stream : TokenStream) :
    ((∃ program, ofStream stream = .ok program) ↔ stream.IsBalanced) ∧
    ∀ failure, ofStream stream = .error failure ↔
      (∃ tail, stream.Unopened tail ∧ failure = .source ⟨.unopenedLoop, tail.pos⟩) ∨
      (∃ e, stream.Interrupted e ∧ failure = .source e) ∨
      (stream.Unclosed ∧ failure = .source ⟨.unclosedLoop, stream.endPos⟩) := by
  constructor
  · refine ⟨?_, ofStream_of_isBalanced⟩
    rintro ⟨program, hread⟩
    obtain h | ⟨tail, h⟩ | ⟨e, h⟩ | h := stream.decided
    · exact h
    · simp [ofStream_of_unopened h] at hread
    · simp [ofStream_of_interrupted h] at hread
    · simp [ofStream_of_unclosed h] at hread
  · intro failure
    constructor
    · intro hread
      obtain h | ⟨tail, h⟩ | ⟨e, h⟩ | h := stream.decided
      · obtain ⟨program, hprogram⟩ := ofStream_of_isBalanced h
        simp [hprogram] at hread
      · rw [ofStream_of_unopened h, Except.error.injEq] at hread
        exact .inl ⟨tail, h, hread.symm⟩
      · rw [ofStream_of_interrupted h, Except.error.injEq] at hread
        exact .inr (.inl ⟨e, h, hread.symm⟩)
      · rw [ofStream_of_unclosed h, Except.error.injEq] at hread
        exact .inr (.inr ⟨h, hread.symm⟩)
    · rintro (⟨tail, h, rfl⟩ | ⟨e, h, rfl⟩ | ⟨h, rfl⟩)
      · exact ofStream_of_unopened h
      · exact ofStream_of_interrupted h
      · exact ofStream_of_unclosed h

end Program

end TapeLang
