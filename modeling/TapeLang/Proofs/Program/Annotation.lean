import Mathlib.Data.List.Chain
import TapeLang.Proofs.Program.Ahead

/-!
# An annotated program keeps every token

The annotated reader collects tokens in three places: while it folds a run, at each single command, and
when a loop closes around its body.  Here is what comes of it: nothing is lost, nothing is moved, and
every node holds exactly the tokens that it stands for.

* `Annotated.Faithful`: the tokens of a node are those of what it does, and so are those of the nodes
  inside it.
* `Annotated.Apart`: two neighbours that could not have been one run.
* `AnnotatedProgram.written`: the tokens that an unfinished program holds.  `readBodies_tokens` says that
  these and the tokens ahead are always the tokens of the source.
* `AnnotatedProgram.Orderly`: the invariant of each unfinished body.  What it says of the latest node, the
  reader also needs of the tokens ahead: they must not go on with its run.
* **`AnnotatedProgram.ofStream_faithful`**: the tree of a whole stream.
-/

namespace TapeLang

/-! ## Faithful nodes -/

/-- The tokens go the distance along the axis: each goes one step up or one step down. -/
structure IsRun (axis : Axis) (distance : Int) (tokens : List Token) : Prop where
  nonempty : tokens ≠ []
  axis_eq : ∀ token ∈ tokens, token.kind.axis? = some axis
  distance_eq : distance =
    (tokens.map Token.kind).count axis.up - (tokens.map Token.kind).count axis.down

namespace Annotated

/-- The axis of a node that is a run; a cancelled run is on the axis of its tokens. -/
def axis? : Annotated → Option Axis
  | .act (.move _) _ => some .pointer
  | .act (.add _) _ => some .data
  | .act .nop tokens => tokens.head?.bind (·.kind.axis?)
  | .act .output _ | .act .input _ | .loop _ _ => none

/-- The nodes are not two runs on one axis. -/
def Apart (node other : Annotated) : Prop :=
  ∀ axis, node.axis? = some axis → other.axis? ≠ some axis

/-- The node holds the tokens of what it does, at every depth. -/
inductive Faithful : Annotated → Prop
  | move {n : Int} {tokens : List Token} (hrun : IsRun .pointer n tokens) (hn : n ≠ 0) :
      Faithful (.act (.move n) tokens)
  | add {n : Int} {tokens : List Token} (hrun : IsRun .data n tokens) (hn : n ≠ 0) :
      Faithful (.act (.add n) tokens)
  /-- As many tokens go up as go down. -/
  | cancelled {axis : Axis} {tokens : List Token} (hrun : IsRun axis 0 tokens) :
      Faithful (.act .nop tokens)
  | output {token : Token} (hkind : token.kind = .output) : Faithful (.act .output [token])
  | input {token : Token} (hkind : token.kind = .input) : Faithful (.act .input [token])
  | loop {head tail : Token} {body : List Annotated} (hhead : head.kind = .loopHead)
      (htail : tail.kind = .loopTail) (hbody : ∀ node ∈ body, Faithful node)
      (hapart : body.IsChain Apart) :
      Faithful (.loop body (head :: (body.flatMap tokens ++ [tail])))

lemma Apart.symm {node other : Annotated} (h : node.Apart other) : other.Apart node := by
  intro axis hother hnode
  exact h axis hnode hother

lemma apart_of_axis?_eq_none {node : Annotated} (h : node.axis? = none) (other : Annotated) :
    node.Apart other := by
  intro axis haxis
  rw [h] at haxis
  exact absurd haxis (by simp)

end Annotated

lemma net_eq_count {axis : Axis} {kinds : List TokenKind}
    (h : ∀ kind ∈ kinds, kind.axis? = some axis) :
    net kinds = kinds.count axis.up - kinds.count axis.down := by
  induction kinds with
  | nil => rfl
  | cons kind kinds ih =>
    obtain ⟨hkind, hkinds⟩ := List.forall_mem_cons.mp h
    rw [net_cons, ih hkinds]
    cases axis <;> cases kind <;>
      simp [TokenKind.axis?, TokenKind.delta, Axis.up, Axis.down] at hkind ⊢ <;> omega

/-! ## The node of a run -/

namespace Pushback.FoldsTo

variable {context behind : Pushback} {first : Token} {run : Run}

lemma isRun (h : context.FoldsTo first run behind) : IsRun run.axis run.sum run.tokens where
  nonempty := by
    obtain ⟨taken, htokens, -⟩ := h.ahead_eq
    rw [htokens]
    exact List.cons_ne_nil first taken
  axis_eq := h.axis_eq
  distance_eq := by
    rw [h.sum_eq]
    exact net_eq_count (List.forall_mem_map.mpr h.axis_eq)

lemma faithful (h : context.FoldsTo first run behind) :
    (Annotated.act run.action run.tokens).Faithful := by
  have hrun := h.isRun
  rcases run with ⟨axis, sum, tokens⟩
  by_cases hsum : sum = 0
  · rw [Run.action, if_pos hsum]
    exact .cancelled (hsum ▸ hrun)
  · rw [Run.action, if_neg hsum]
    cases axis with
    | pointer => exact .move hrun hsum
    | data => exact .add hrun hsum

lemma axis?_first (h : context.FoldsTo first run behind) : first.kind.axis? = some run.axis := by
  obtain ⟨taken, htokens, -⟩ := h.ahead_eq
  exact h.axis_eq first (htokens ▸ List.mem_cons_self)

lemma axis?_node (h : context.FoldsTo first run behind) :
    (Annotated.act run.action run.tokens).axis? = some run.axis := by
  obtain ⟨taken, htokens, -⟩ := h.ahead_eq
  have hfirst := h.axis?_first
  rw [Run.action]
  split_ifs
  · rw [Annotated.axis?, htokens, List.head?_cons, Option.bind_some, hfirst]
  · cases run.axis <;> rfl

end Pushback.FoldsTo

namespace AnnotatedProgram

/-! ## No token is lost -/

/-- The tokens of an unfinished program: those of the bodies around, each with the head of the loop that
comes next, and those of the innermost body. -/
def written (body : List Annotated) : List Opening → List Token
  | [] => body.reverse.flatMap Annotated.tokens
  | opening :: outer =>
    written opening.parent outer ++ opening.head :: body.reverse.flatMap Annotated.tokens

lemma written_cons (node : Annotated) (body : List Annotated) (outer : List Opening) :
    written (node :: body) outer = written body outer ++ node.tokens := by
  cases outer <;> simp [written]

lemma written_open (head : Token) (body : List Annotated) (outer : List Opening) :
    written [] (⟨head, body⟩ :: outer) = written body outer ++ [head] := by
  simp [written]

/-- Closing a loop adds its tail, and moves no token. -/
lemma written_close (body : List Annotated) (opening : Opening) (outer : List Opening) (tail : Token) :
    written (closeLoop opening.head body.reverse tail :: opening.parent) outer =
      written body (opening :: outer) ++ [tail] := by
  simp [written_cons, written, closeLoop, Annotated.tokens]

variable {program : AnnotatedProgram}

/-- A token that has been read and written lay ahead before. -/
lemma exists_ahead_of_next {context after : Pushback} {token : Token} {all before : List Token}
    (hnext : context.next = (.ok (.token token), after))
    (h : ∃ tokens, after.ahead = tokens.map .ok ∧ all = before ++ [token] ++ tokens) :
    ∃ tokens, context.ahead = tokens.map .ok ∧ all = before ++ tokens := by
  obtain ⟨tokens, hahead, hall⟩ := h
  refine ⟨token :: tokens, ?_, ?_⟩
  · rw [Pushback.ahead_of_next_token hnext, hahead, List.map_cons]
  · rw [hall, List.append_assoc, List.singleton_append]

/-- **What is written and what lies ahead are the tokens of the source.** -/
theorem readBodies_tokens {body : List Annotated} {outer : List Opening} {context : Pushback}
    (h : readBodies body outer context = .ok program) (hsettled : context.Settled) :
    ∃ tokens, context.ahead = tokens.map .ok ∧
      program.flatMap Annotated.tokens = written body outer ++ tokens := by
  fun_induction readBodies body outer context with
  | case1 body outer context e after hnext => simp at h
  | case2 body context pos after hnext =>
    rw [Except.ok.injEq] at h
    subst h
    exact ⟨[], (Pushback.ahead_of_next_finish hsettled hnext).1, (List.append_nil _).symm⟩
  | case3 body context pos after hnext opening outer => simp at h
  | case4 body outer context token after hnext _ hkind ih =>
    have hlater := ih h (Pushback.settled_of_next hnext)
    rw [written_cons] at hlater
    exact exists_ahead_of_next hnext hlater
  | case5 body outer context token after hnext _ hkind ih =>
    have hlater := ih h (Pushback.settled_of_next hnext)
    rw [written_cons] at hlater
    exact exists_ahead_of_next hnext hlater
  | case6 body outer context token after hnext _ hkind ih =>
    have hlater := ih h (Pushback.settled_of_next hnext)
    rw [written_open] at hlater
    exact exists_ahead_of_next hnext hlater
  | case7 body context token after hnext _ hkind => simp at h
  | case8 body context token after hnext _ hkind opening outer ih =>
    simp only [List.unattach_reverse, List.unattach_attach] at ih
    have hlater := ih h (Pushback.settled_of_next hnext)
    rw [written_close] at hlater
    exact exists_ahead_of_next hnext hlater
  | case9 body outer context token after hnext _ e behind hrun hout hin hhead htail => simp at h
  | case10 body outer context token after hnext _ run behind hrun _ hout hin hhead htail ih =>
    have hfolds := Pushback.foldRun_ok (Pushback.settled_of_next hnext) hrun
    obtain ⟨taken, hrunTokens, hafter⟩ := hfolds.ahead_eq
    obtain ⟨tokens, hahead, htokens⟩ := ih h hfolds.settled
    refine ⟨token :: (taken ++ tokens), ?_, ?_⟩
    · rw [Pushback.ahead_of_next_token hnext, hafter, hahead, List.map_cons, List.map_append]
    · rw [htokens, written_cons]
      simp [Annotated.tokens, hrunTokens]

/-! ## Every node is faithful -/

/-- The nodes are faithful, and no two neighbours could have been one run. -/
structure Orderly (nodes : List Annotated) : Prop where
  faithful : ∀ node ∈ nodes, node.Faithful
  apart : nodes.IsChain Annotated.Apart

/-- The readings do not go on with the run that the latest node is. -/
def EndsBefore (body : List Annotated) (readings : List Reading) : Prop :=
  ∀ latest ∈ body.head?, ∀ axis, latest.axis? = some axis → Pushback.Leaves axis readings

lemma endsBefore_of_axis?_eq_none {node : Annotated} (h : node.axis? = none) (body : List Annotated)
    (readings : List Reading) : EndsBefore (node :: body) readings := by
  intro latest hlatest axis haxis
  rw [List.head?_cons, Option.mem_some_iff] at hlatest
  rw [← hlatest, h] at haxis
  exact absurd haxis (by simp)

namespace Orderly

variable {nodes : List Annotated}

lemma nil : Orderly [] := ⟨by simp, List.isChain_nil⟩

lemma cons {node : Annotated} (h : Orderly nodes) (hnode : node.Faithful)
    (hapart : ∀ latest ∈ nodes.head?, node.Apart latest) : Orderly (node :: nodes) :=
  ⟨List.forall_mem_cons.mpr ⟨hnode, h.faithful⟩, List.isChain_cons.mpr ⟨hapart, h.apart⟩⟩

lemma cons_of_axis?_eq_none {node : Annotated} (h : Orderly nodes) (hnode : node.Faithful)
    (haxis : node.axis? = none) : Orderly (node :: nodes) :=
  h.cons hnode fun latest _ => Annotated.apart_of_axis?_eq_none haxis latest

/-- Turning a body around changes no neighbours. -/
lemma reverse (h : Orderly nodes) : Orderly nodes.reverse where
  faithful := fun node hnode => h.faithful node (List.mem_reverse.mp hnode)
  apart := List.isChain_reverse.mpr (h.apart.imp fun _ _ => Annotated.Apart.symm)

lemma closeLoop {head tail : Token} (h : Orderly nodes) (hhead : head.kind = .loopHead)
    (htail : tail.kind = .loopTail) : (AnnotatedProgram.closeLoop head nodes tail).Faithful :=
  .loop hhead htail h.faithful h.apart

end Orderly

/-- The unfinished bodies around the innermost one are orderly, and each loop was opened by a head. -/
def Awaits (outer : List Opening) : Prop :=
  ∀ opening ∈ outer, opening.head.kind = .loopHead ∧ Orderly opening.parent

/-- **The reader keeps its bodies orderly.** -/
theorem readBodies_orderly {body : List Annotated} {outer : List Opening} {context : Pushback}
    (h : readBodies body outer context = .ok program) (hsettled : context.Settled)
    (hbody : Orderly body) (hends : EndsBefore body context.ahead) (houter : Awaits outer) :
    Orderly program := by
  fun_induction readBodies body outer context with
  | case1 body outer context e after hnext => simp at h
  | case2 body context pos after hnext =>
    rw [Except.ok.injEq] at h
    subst h
    exact hbody.reverse
  | case3 body context pos after hnext opening outer => simp at h
  | case4 body outer context token after hnext _ hkind ih =>
    exact ih h (Pushback.settled_of_next hnext) (hbody.cons_of_axis?_eq_none (.output hkind) rfl)
      (endsBefore_of_axis?_eq_none rfl _ _) houter
  | case5 body outer context token after hnext _ hkind ih =>
    exact ih h (Pushback.settled_of_next hnext) (hbody.cons_of_axis?_eq_none (.input hkind) rfl)
      (endsBefore_of_axis?_eq_none rfl _ _) houter
  | case6 body outer context token after hnext _ hkind ih =>
    have hnone : EndsBefore [] after.ahead := by simp [EndsBefore]
    exact ih h (Pushback.settled_of_next hnext) .nil hnone
      (List.forall_mem_cons.mpr ⟨⟨hkind, hbody⟩, houter⟩)
  | case7 body context token after hnext _ hkind => simp at h
  | case8 body context token after hnext _ hkind opening outer ih =>
    simp only [List.unattach_reverse, List.unattach_attach] at ih
    obtain ⟨⟨hhead, hparent⟩, houter⟩ := List.forall_mem_cons.mp houter
    have hloop := hbody.reverse.closeLoop hhead hkind
    exact ih h (Pushback.settled_of_next hnext) (hparent.cons_of_axis?_eq_none hloop rfl)
      (endsBefore_of_axis?_eq_none rfl _ _) houter
  | case9 body outer context token after hnext _ e behind hrun hout hin hhead htail => simp at h
  | case10 body outer context token after hnext _ run behind hrun _ hout hin hhead htail ih =>
    have hfolds := Pushback.foldRun_ok (Pushback.settled_of_next hnext) hrun
    -- the run that begins here is not on the axis of the latest node, or it would have begun there
    have hapart : ∀ latest ∈ body.head?, (Annotated.act run.action run.tokens).Apart latest := by
      intro latest hlatest axis haxis hsame
      have hleaves := hends latest hlatest axis hsame
      rw [Pushback.ahead_of_next_token hnext] at hleaves
      rw [hfolds.axis?_node, ← hfolds.axis?_first] at haxis
      exact hleaves token rfl haxis
    have hbehind : EndsBefore (.act run.action run.tokens :: body) behind.ahead := by
      intro latest hlatest axis haxis
      rw [List.head?_cons, Option.mem_some_iff] at hlatest
      rw [← hlatest, hfolds.axis?_node, Option.some.injEq] at haxis
      exact haxis ▸ hfolds.leaves
    exact ih h hfolds.settled (hbody.cons hfolds.faithful hapart) hbehind houter

/-- **An annotated program loses no token and folds as far as it can.**  The tokens of its nodes, one
after the other, are all the tokens of the stream; each node at every depth holds the tokens of what
it does; and no two neighbours at any depth are runs on the same axis.  `Lexer.parseAnnotated` is the
reader on the stream of a source text. -/
theorem ofStream_faithful {stream : TokenStream} (h : ofStream stream = .ok program) :
    stream.pending = (program.flatMap Annotated.tokens).map .ok ∧
      (∀ node ∈ program, node.Faithful) ∧ program.IsChain Annotated.Apart := by
  have hsettled : (Pushback.ofStream stream).Settled := Pushback.settled_of_slot_eq_none rfl
  obtain ⟨tokens, hahead, htokens⟩ := readBodies_tokens h hsettled
  have horderly := readBodies_orderly h hsettled .nil (by simp [EndsBefore]) (by simp [Awaits])
  refine ⟨?_, horderly.faithful, horderly.apart⟩
  rw [htokens, ← Pushback.ahead_ofStream stream, hahead]
  rfl

/-- The tokens of `+-[>><.]`, read as a cancelled run and a loop around a folded run and an output. -/
theorem cancelled_run_faithful :
    ∃ program,
      ofStream ⟨[.ok ⟨.dataUp, "+", 0⟩, .ok ⟨.dataDown, "-", 1⟩, .ok ⟨.loopHead, "[", 2⟩,
          .ok ⟨.pointerUp, ">", 3⟩, .ok ⟨.pointerUp, ">", 4⟩, .ok ⟨.pointerDown, "<", 5⟩,
          .ok ⟨.output, ".", 6⟩, .ok ⟨.loopTail, "]", 7⟩], 8⟩ = .ok program ∧
      program.erase = [.loop [.act (.move 1), .act .output]] ∧
      (program.flatMap Annotated.tokens).length = 8 ∧ (∀ node ∈ program, node.Faithful) ∧
      program.IsChain Annotated.Apart := by
  have hread : ofStream ⟨[.ok ⟨.dataUp, "+", 0⟩, .ok ⟨.dataDown, "-", 1⟩, .ok ⟨.loopHead, "[", 2⟩,
      .ok ⟨.pointerUp, ">", 3⟩, .ok ⟨.pointerUp, ">", 4⟩, .ok ⟨.pointerDown, "<", 5⟩,
      .ok ⟨.output, ".", 6⟩, .ok ⟨.loopTail, "]", 7⟩], 8⟩ = .ok
    [.act .nop [⟨.dataUp, "+", 0⟩, ⟨.dataDown, "-", 1⟩],
      .loop [.act (.move 1) [⟨.pointerUp, ">", 3⟩, ⟨.pointerUp, ">", 4⟩, ⟨.pointerDown, "<", 5⟩],
          .act .output [⟨.output, ".", 6⟩]]
        [⟨.loopHead, "[", 2⟩, ⟨.pointerUp, ">", 3⟩, ⟨.pointerUp, ">", 4⟩, ⟨.pointerDown, "<", 5⟩,
          ⟨.output, ".", 6⟩, ⟨.loopTail, "]", 7⟩]] := by
    with_unfolding_all rfl
  obtain ⟨-, hfaithful, hapart⟩ := ofStream_faithful hread
  exact ⟨_, hread, rfl, rfl, hfaithful, hapart⟩

end AnnotatedProgram

end TapeLang
