import Mathlib.Algebra.BigOperators.Group.List.Basic
import Mathlib.Algebra.Ring.Int.Defs
import Mathlib.Tactic.Common
import TapeLang.Program.OfTokens

/-!
# Reading without putting back

The readers of programs look one item too far at the end of a run and put it back.  Nothing of that
is left in what they read: this file gives the equations of `Program.readBodies` on a plain list of
readings, one for each thing that can come next, and a whole run counts as one thing.

* `TokenKind.delta` and `net`: how far a command, and a list of them, goes along its axis.
* `Pushback.collect_append`: folding goes through the tokens of the axis.
* **`Program.readAll_run`**: a run becomes one instruction, or none when it cancels.
-/

namespace TapeLang

/-! ## Distances -/

/-- How far a command goes along its axis; commands without an axis go nowhere. -/
def TokenKind.delta : TokenKind → Int
  | .pointerUp | .dataUp => 1
  | .pointerDown | .dataDown => -1
  | .output | .input | .loopHead | .loopTail => 0

def net (kinds : List TokenKind) : Int :=
  (kinds.map TokenKind.delta).sum

@[simp] lemma net_nil : net [] = 0 := rfl

@[simp] lemma net_cons (kind : TokenKind) (kinds : List TokenKind) :
    net (kind :: kinds) = kind.delta + net kinds := by
  simp [net]

@[simp] lemma net_append (first second : List TokenKind) :
    net (first ++ second) = net first + net second := by
  simp [net]

def Axis.up : Axis → TokenKind
  | .pointer => .pointerUp
  | .data => .dataUp

def Axis.down : Axis → TokenKind
  | .pointer => .pointerDown
  | .data => .dataDown

def Axis.action : Axis → Int → Action
  | .pointer, distance => .move distance
  | .data, distance => .add distance

lemma Axis.delta?_of_axis? {axis : Axis} {kind : TokenKind} (h : kind.axis? = some axis) :
    axis.delta? kind = some kind.delta := by
  cases kind <;> cases axis <;> simp_all [TokenKind.axis?, Axis.delta?, TokenKind.delta]

lemma Axis.delta?_of_axis?_ne {axis : Axis} {kind : TokenKind} (h : kind.axis? ≠ some axis) :
    axis.delta? kind = none := by
  cases kind <;> cases axis <;> simp_all [TokenKind.axis?, Axis.delta?]

/-! ## Folding a run -/

namespace Pushback

/-- What comes next does not go on along the axis. -/
def Leaves (axis : Axis) (readings : List Reading) : Prop :=
  ∀ token, readings.head? = some (.ok token) → token.kind.axis? ≠ some axis

variable {axis : Axis} {endPos : Nat}

lemma next_ofStream_nil :
    (ofStream ⟨[], endPos⟩).next = (.ok (.finish endPos), ofStream ⟨[], endPos⟩) := rfl

lemma next_ofStream_ok (token : Token) (rest : List Reading) :
    (ofStream ⟨.ok token :: rest, endPos⟩).next = (.ok (.token token), ofStream ⟨rest, endPos⟩) := rfl

lemma next_ofStream_error (e : ParseError) (rest : List Reading) :
    (ofStream ⟨.error e :: rest, endPos⟩).next = (.error e, ofStream ⟨rest, endPos⟩) := rfl

/-- Folding, unrolled once.  The definition carries proofs for its termination in the match; this
equation does not, so that what comes next can be put in. -/
lemma collect_eq (axis : Axis) (sum : Int) (latest : List Token) (context : Pushback) :
    collect axis sum latest context =
      match context.next with
      | (.error e, after) => (.error (.source e), after)
      | (.ok (.finish pos), after) => after.closeRun ⟨axis, sum, latest.reverse⟩ (.finish pos)
      | (.ok (.token token), after) =>
        match axis.delta? token.kind with
        | some delta => collect axis (sum + delta) (token :: latest) after
        | none => after.closeRun ⟨axis, sum, latest.reverse⟩ (.token token) := by
  rw [collect]
  split
  · next h => simp only [h]
  · next h => simp only [h]
  · next token after h => cases hdelta : axis.delta? token.kind <;> simp only [h, hdelta]

/-- Folding takes up all tokens of its axis. -/
lemma collect_append (sum : Int) (latest run : List Token) (rest : List Reading)
    (hrun : ∀ token ∈ run, token.kind.axis? = some axis) :
    collect axis sum latest (ofStream ⟨run.map .ok ++ rest, endPos⟩) =
      collect axis (sum + net (run.map Token.kind)) (run.reverse ++ latest)
        (ofStream ⟨rest, endPos⟩) := by
  induction run generalizing sum latest with
  | nil => simp
  | cons token run ih =>
    have htoken := hrun token List.mem_cons_self
    rw [List.map_cons, List.cons_append, collect_eq, next_ofStream_ok]
    simp only [Axis.delta?_of_axis? htoken]
    rw [ih _ _ fun other hother => hrun other (List.mem_cons_of_mem _ hother)]
    simp [Int.add_assoc]

lemma collect_error (sum : Int) (latest : List Token) (e : ParseError) (rest : List Reading) :
    collect axis sum latest (ofStream ⟨.error e :: rest, endPos⟩) =
      (.error (.source e), ofStream ⟨rest, endPos⟩) := by
  rw [collect_eq, next_ofStream_error]

/-- Anything else ends the run, and is what the next reader gets. -/
lemma collect_leaves (endPos : Nat) (sum : Int) (latest : List Token) {rest : List Reading}
    (hrest : Leaves axis rest) (hok : ∀ e more, rest ≠ .error e :: more) :
    ∃ behind, collect axis sum latest (ofStream ⟨rest, endPos⟩) =
        (.ok ⟨axis, sum, latest.reverse⟩, behind) ∧
      behind.next = (ofStream ⟨rest, endPos⟩).next := by
  rw [collect_eq]
  rcases rest with _ | ⟨e | token, more⟩
  · exact ⟨_, rfl, rfl⟩
  · exact absurd rfl (hok e more)
  · have htoken : axis.delta? token.kind = none := Axis.delta?_of_axis?_ne (hrest token rfl)
    simp only [next_ofStream_ok, htoken]
    exact ⟨_, rfl, rfl⟩

/-! ### The slot is never taken twice

Putting back follows a read, and a read empties the slot. -/

lemma slot_of_next {context after : Pushback} {result : Except ParseError Item}
    (h : context.next = (result, after)) : after.slot = none := by
  have hafter : after = context.next.2 := (congrArg Prod.snd h).symm
  rcases context with ⟨stream, _ | item⟩
  · rw [hafter]
    rfl
  · rw [hafter]
    rfl

lemma closeRun_of_next {context after : Pushback} {result : Except ParseError Item}
    (h : context.next = (result, after)) (run : Run) (item : Item) :
    (after.closeRun run item).1 = .ok run := by
  rw [closeRun, unget, slot_of_next h]

/-- Folding fails only where the source does. -/
lemma collect_failure (axis : Axis) (sum : Int) (latest : List Token) (context : Pushback)
    {failure : ReadFailure} (h : (collect axis sum latest context).1 = .error failure) :
    ∃ e, failure = .source e := by
  fun_induction collect axis sum latest context with
  | case1 sum latest context e after hnext => exact ⟨e, (Except.error.inj h).symm⟩
  | case2 sum latest context pos after hnext =>
    rw [closeRun_of_next hnext] at h
    exact absurd h (by simp)
  | case3 sum latest context token after hnext delta hdelta ih => exact ih h
  | case4 sum latest context token after hnext hdelta =>
    rw [closeRun_of_next hnext] at h
    exact absurd h (by simp)

lemma foldRun_failure {token : Token} (haxis : token.kind.axis? ≠ none) (context : Pushback)
    {failure : ReadFailure} {after : Pushback}
    (h : context.foldRun (.token token) = (.error failure, after)) : ∃ e, failure = .source e := by
  obtain ⟨axis, haxis⟩ := Option.ne_none_iff_exists'.mp haxis
  simp only [foldRun, haxis] at h
  exact collect_failure axis _ _ context (congrArg Prod.fst h)

end Pushback

/-! ## Reading a program -/

namespace Program

lemma readBodies_eq (body : List Instr) (outer : List (List Instr)) (context : Pushback) :
    readBodies body outer context =
      match context.next with
      | (.error e, _) => .error (.source e)
      | (.ok (.finish pos), _) =>
        match outer with
        | [] => .ok body.reverse
        | _ :: _ => .error (.source ⟨.unclosedLoop, pos⟩)
      | (.ok (.token token), after) =>
        match token.kind with
        | .output => readBodies (.act .output :: body) outer after
        | .input => readBodies (.act .input :: body) outer after
        | .loopHead => readBodies [] (body :: outer) after
        | .loopTail =>
          match outer with
          | [] => .error (.source ⟨.unopenedLoop, token.pos⟩)
          | parent :: outer => readBodies (.loop body.reverse :: parent) outer after
        | _ =>
          match after.foldRun (.token token) with
          | (.error e, _) => .error e
          | (.ok run, behind) =>
            readBodies (if run.sum = 0 then body else .act run.action :: body) outer behind := by
  rw [readBodies]
  split
  · next h => simp only [h]
  · next h => cases outer <;> simp only [h]
  · next token after h =>
    simp only [h]
    -- only the commands of an axis fold a run, and only there a second match carries a proof
    cases token.kind with
    | output | input | loopHead | loopTail => rfl
    | pointerUp | pointerDown | dataUp | dataDown =>
      simp only
      split
      · next hrun => simp only [hrun]
      · next hrun => simp only [hrun]

/-- **Reading fails only where the source does.** -/
theorem readBodies_failure (body : List Instr) (outer : List (List Instr)) (context : Pushback)
    {failure : ReadFailure} (h : readBodies body outer context = .error failure) :
    ∃ e, failure = .source e := by
  fun_induction readBodies body outer context with
  | case1 body outer context e after hnext => exact ⟨e, (Except.error.inj h).symm⟩
  | case2 body context pos after hnext => simp at h
  | case3 body context pos after hnext parent outer => exact ⟨_, (Except.error.inj h).symm⟩
  | case4 body outer context token after hnext _ hkind ih => exact ih h
  | case5 body outer context token after hnext _ hkind ih => exact ih h
  | case6 body outer context token after hnext _ hkind ih => exact ih h
  | case7 body context token after hnext _ hkind => exact ⟨_, (Except.error.inj h).symm⟩
  | case8 body context token after hnext _ hkind parent outer ih =>
    simp only [List.unattach_reverse, List.unattach_attach] at ih
    exact ih h
  | case9 body outer context token after hnext _ e behind hrun hout hin hhead htail =>
    have haxis : token.kind.axis? ≠ none := by
      cases hkind : token.kind <;> simp_all [TokenKind.axis?]
    rw [Except.error.inj h] at hrun
    exact Pushback.foldRun_failure haxis after hrun
  | case10 body outer context token after hnext _ run behind hrun _ hout hin hhead htail ih =>
    exact ih h

/-- All that matters of the reader's context is what it hands out next. -/
lemma readBodies_congr (body : List Instr) (outer : List (List Instr)) {context context' : Pushback}
    (h : context.next = context'.next) :
    readBodies body outer context = readBodies body outer context' := by
  rw [readBodies_eq, readBodies_eq, h]

/-- Reads from a plain list of readings, with nothing put back. -/
def readAll (endPos : Nat) (body : List Instr) (outer : List (List Instr))
    (readings : List Reading) : Except ReadFailure Program :=
  readBodies body outer (.ofStream ⟨readings, endPos⟩)

lemma ofStream_eq_readAll (stream : TokenStream) :
    ofStream stream = readAll stream.endPos [] [] stream.pending := rfl

variable {endPos : Nat} {body : List Instr} {outer : List (List Instr)} {token : Token}
  {rest : List Reading}

lemma readAll_nil : readAll endPos body [] [] = .ok body.reverse := by
  rw [readAll, readBodies_eq, Pushback.next_ofStream_nil]

lemma readAll_unclosed (parent : List Instr) :
    readAll endPos body (parent :: outer) [] = .error (.source ⟨.unclosedLoop, endPos⟩) := by
  rw [readAll, readBodies_eq, Pushback.next_ofStream_nil]

lemma readAll_error (e : ParseError) :
    readAll endPos body outer (.error e :: rest) = .error (.source e) := by
  rw [readAll, readBodies_eq, Pushback.next_ofStream_error]

lemma readAll_output (h : token.kind = .output) :
    readAll endPos body outer (.ok token :: rest) =
      readAll endPos (.act .output :: body) outer rest := by
  rw [readAll, readBodies_eq, Pushback.next_ofStream_ok]
  simp only [h, readAll]

lemma readAll_input (h : token.kind = .input) :
    readAll endPos body outer (.ok token :: rest) =
      readAll endPos (.act .input :: body) outer rest := by
  rw [readAll, readBodies_eq, Pushback.next_ofStream_ok]
  simp only [h, readAll]

lemma readAll_head (h : token.kind = .loopHead) :
    readAll endPos body outer (.ok token :: rest) = readAll endPos [] (body :: outer) rest := by
  rw [readAll, readBodies_eq, Pushback.next_ofStream_ok]
  simp only [h, readAll]

lemma readAll_tail (h : token.kind = .loopTail) (parent : List Instr) :
    readAll endPos body (parent :: outer) (.ok token :: rest) =
      readAll endPos (.loop body.reverse :: parent) outer rest := by
  rw [readAll, readBodies_eq, Pushback.next_ofStream_ok]
  simp only [h, readAll]

lemma readAll_unopened (h : token.kind = .loopTail) :
    readAll endPos body [] (.ok token :: rest) = .error (.source ⟨.unopenedLoop, token.pos⟩) := by
  rw [readAll, readBodies_eq, Pushback.next_ofStream_ok]
  simp only [h]

/-- The instructions that a run leaves: none when it cancels. -/
def ofRun (axis : Axis) (distance : Int) : List Instr :=
  if distance = 0 then [] else [.act (axis.action distance)]

lemma readBodies_of_axis? {context after : Pushback} {axis : Axis}
    (h : context.next = (.ok (.token token), after)) (haxis : token.kind.axis? = some axis) :
    readBodies body outer context =
      match Pushback.collect axis token.kind.delta [token] after with
      | (.error e, _) => .error e
      | (.ok run, behind) =>
        readBodies (if run.sum = 0 then body else .act run.action :: body) outer behind := by
  have hfold : after.foldRun (.token token) = after.collect axis token.kind.delta [token] := by
    simp only [Pushback.foldRun, haxis, Axis.delta?_of_axis? haxis, Option.getD_some]
  rw [readBodies_eq, h, ← hfold]
  cases hkind : token.kind with
  | output | input | loopHead | loopTail => simp [hkind, TokenKind.axis?] at haxis
  | pointerUp | pointerDown | dataUp | dataDown => simp only [hkind]

/-- **A run is read as a whole.**  Its tokens add up to one instruction, or to none, and reading goes on
behind it; an error there is reported as if there had been no run. -/
theorem readAll_run {axis : Axis} {first : Token} {run : List Token}
    (hfirst : first.kind.axis? = some axis) (hrun : ∀ other ∈ run, other.kind.axis? = some axis)
    (hrest : Pushback.Leaves axis rest) :
    readAll endPos body outer (.ok first :: (run.map .ok ++ rest)) =
      readAll endPos (ofRun axis (net (first.kind :: run.map Token.kind)) ++ body) outer rest := by
  rw [readAll, readBodies_of_axis? (Pushback.next_ofStream_ok _ _) hfirst,
    Pushback.collect_append _ _ _ _ hrun, ← net_cons]
  by_cases herror : ∃ e more, rest = .error e :: more
  · obtain ⟨e, more, rfl⟩ := herror
    rw [Pushback.collect_error, readAll_error]
  · obtain ⟨behind, hcollect, hnext⟩ := Pushback.collect_leaves endPos
      (net (first.kind :: run.map Token.kind)) (run.reverse ++ [first]) hrest
      fun e more h => herror ⟨e, more, h⟩
    rw [hcollect]
    simp only
    rw [readBodies_congr _ _ hnext, readAll]
    congr 1
    simp only [ofRun, Run.action]
    split_ifs
    · rfl
    · cases axis <;> rfl

end Program

end TapeLang
