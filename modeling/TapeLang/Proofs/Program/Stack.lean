import TapeLang.Proofs.Program.Erasure
import TapeLang.Proofs.Program.Slot

/-!
# Reading on a bare stack

`Program.readBodies` and `AnnotatedProgram.readBodies` take the innermost unfinished body as an
argument of its own and keep the head of every open loop, so that neither a body nor a head can be
missing.  This file reads programs on a plain stack, where both can: the stack may be empty when
the innermost body is wanted, and a body may have no head when its loop is closed.  It shows that
neither ever happens.

* `Builder`: what the two readers make of tokens, the only thing in which they differ.
* `Builder.read`: reading on a stack of bodies, with every `Breakdown` an outcome.
* `Program.read_builder`, `AnnotatedProgram.read_builder`: on the stack that belongs to some unfinished
  bodies, reading gives what the readers give, so it breaks down only as they do.
* **`Pushback.slot_serves_readers`**: the slot after every history of calls, and the two readers, which
  fail only where the source does.
-/

namespace TapeLang

/-! ## Reading on a stack -/

/-- An unfinished body, latest instruction first, and the head of its loop; the outermost has none. -/
structure OpenBody (α : Type) where
  head : Option Token
  body : List α

/-- Why reading on a stack stops short of a program. -/
inductive Breakdown where
  /-- A reader fails in this way too. -/
  | failure (e : ReadFailure)
  /-- The innermost body is wanted, and the stack is empty. -/
  | noBody
  /-- A loop is closed, and its body has no head. -/
  | noHead
deriving DecidableEq, Repr

/-- What a reader makes of the tokens. -/
structure Builder (α : Type) where
  single : Action → Token → α
  /-- The instructions that a run leaves, at most one. -/
  run : Run → List α
  /-- A loop, given its head, its body and its tail. -/
  loop : Option Token → List α → Token → Except Breakdown α

/-- Puts instructions, latest first, on top of the innermost body. -/
def OpenBody.push {α : Type} (top : OpenBody α) (latest : List α) : OpenBody α :=
  { top with body := latest ++ top.body }

/-- Reads instructions into the body on top of the stack. -/
def Builder.read {α : Type} (builder : Builder α) (stack : List (OpenBody α)) (context : Pushback) :
    Except Breakdown (List α) :=
  match _h : context.next with
  | (.error e, _) => .error (.failure (.source e))
  | (.ok item, after) =>
    match stack with
    | [] => .error .noBody
    | top :: below =>
      match item, _h with
      | .finish pos, _ =>
        if below.isEmpty then .ok top.body.reverse
        else .error (.failure (.source ⟨.unclosedLoop, pos⟩))
      | .token token, _h =>
        have : after.weight < context.weight := Pushback.weight_lt_of_next _h
        match token.kind with
        | .output => builder.read (top.push [builder.single .output token] :: below) after
        | .input => builder.read (top.push [builder.single .input token] :: below) after
        | .loopHead => builder.read (⟨some token, []⟩ :: top :: below) after
        | .loopTail =>
          if below.isEmpty then .error (.failure (.source ⟨.unopenedLoop, token.pos⟩))
          else
            match builder.loop top.head top.body.reverse token, below with
            | .error e, _ => .error e
            | .ok _, [] => .error .noBody
            | .ok instr, parent :: outer => builder.read (parent.push [instr] :: outer) after
        | _ =>
          match _hrun : after.foldRun (.token token) with
          | (.error e, _) => .error (.failure e)
          | (.ok run, behind) =>
            have : behind.weight ≤ after.weight := by
              have := after.weight_foldRun_le (.token token)
              rwa [_hrun] at this
            builder.read (top.push (builder.run run) :: below) behind
termination_by context.weight

/-- Reading, unrolled once, where there is a body to read into. -/
lemma Builder.read_eq {α : Type} (builder : Builder α) (top : OpenBody α) (below : List (OpenBody α))
    (context : Pushback) :
    builder.read (top :: below) context =
      match context.next with
      | (.error e, _) => .error (.failure (.source e))
      | (.ok (.finish pos), _) =>
        if below.isEmpty then .ok top.body.reverse
        else .error (.failure (.source ⟨.unclosedLoop, pos⟩))
      | (.ok (.token token), after) =>
        match token.kind with
        | .output => builder.read (top.push [builder.single .output token] :: below) after
        | .input => builder.read (top.push [builder.single .input token] :: below) after
        | .loopHead => builder.read (⟨some token, []⟩ :: top :: below) after
        | .loopTail =>
          if below.isEmpty then .error (.failure (.source ⟨.unopenedLoop, token.pos⟩))
          else
            match builder.loop top.head top.body.reverse token, below with
            | .error e, _ => .error e
            | .ok _, [] => .error .noBody
            | .ok instr, parent :: outer => builder.read (parent.push [instr] :: outer) after
        | _ =>
          match after.foldRun (.token token) with
          | (.error e, _) => .error (.failure e)
          | (.ok run, behind) => builder.read (top.push (builder.run run) :: below) behind := by
  rw [Builder.read]
  split
  · next h => simp only [h]
  · next item after h =>
    cases item with
    | finish pos => simp only [h]
    | token token =>
      simp only [h]
      cases token.kind with
      | output | input | loopHead | loopTail => rfl
      | pointerUp | pointerDown | dataUp | dataDown =>
        simp only
        split
        · next hrun => simp only [hrun]
        · next hrun => simp only [hrun]

/-- Reads from a token stream, on a stack with one empty body that no loop has opened. -/
def Builder.ofStream {α : Type} (builder : Builder α) (stream : TokenStream) :
    Except Breakdown (List α) :=
  builder.read [⟨none, []⟩] (.ofStream stream)

/-! ## The plain reader -/

namespace Program

/-- Plain instructions.  A loop forgets its head, so that none is needed. -/
def builder : Builder Instr where
  single action _ := .act action
  run run := if run.sum = 0 then [] else [.act run.action]
  loop _ body _ := .ok (.loop body)

/-- On a stack of the same bodies, whatever their heads, reading is the reader's. -/
lemma read_builder (body : List Instr) (outer : List (List Instr)) (context : Pushback)
    (head : Option Token) {below : List (OpenBody Instr)} (hbelow : below.map OpenBody.body = outer) :
    builder.read (⟨head, body⟩ :: below) context =
      (readBodies body outer context).mapError .failure := by
  fun_induction readBodies body outer context generalizing head below with
  | case1 body outer context e after hnext =>
    rw [Builder.read_eq, hnext]
    rfl
  | case2 body context pos after hnext =>
    obtain rfl := List.map_eq_nil_iff.mp hbelow
    rw [Builder.read_eq, hnext]
    rfl
  | case3 body context pos after hnext parent outer =>
    obtain ⟨next, rest, rfl, rfl, hrest⟩ := List.map_eq_cons_iff.mp hbelow
    rw [Builder.read_eq, hnext]
    rfl
  | case4 body outer context token after hnext _ hkind ih =>
    rw [Builder.read_eq, hnext]
    simp only [hkind]
    exact ih head hbelow
  | case5 body outer context token after hnext _ hkind ih =>
    rw [Builder.read_eq, hnext]
    simp only [hkind]
    exact ih head hbelow
  | case6 body outer context token after hnext _ hkind ih =>
    rw [Builder.read_eq, hnext]
    simp only [hkind]
    exact ih (some token) (congrArg (body :: ·) hbelow)
  | case7 body context token after hnext _ hkind =>
    obtain rfl := List.map_eq_nil_iff.mp hbelow
    rw [Builder.read_eq, hnext]
    simp only [hkind]
    rfl
  | case8 body context token after hnext _ hkind parent outer ih =>
    obtain ⟨next, rest, rfl, rfl, hrest⟩ := List.map_eq_cons_iff.mp hbelow
    simp only [List.unattach_reverse, List.unattach_attach] at ih
    rw [Builder.read_eq, hnext]
    simp only [hkind]
    exact ih next.head hrest
  | case9 body outer context token after hnext _ e behind hrun hout hin hhead htail =>
    rw [Builder.read_eq, hnext]
    simp only [hrun]
    rfl
  | case10 body outer context token after hnext _ run behind hrun _ hout hin hhead htail ih =>
    have hbody : builder.run run ++ body = if run.sum = 0 then body else .act run.action :: body := by
      simp only [builder]
      split_ifs <;> rfl
    rw [Builder.read_eq, hnext]
    simp only [hrun, OpenBody.push, hbody]
    exact ih head hbelow

end Program

/-! ## The annotated reader -/

namespace AnnotatedProgram

/-- Annotated instructions.  A loop carries its head, and cannot be built without. -/
def builder : Builder Annotated where
  single action token := .act action [token]
  run run := [.act run.action run.tokens]
  loop
    | some head, body, tail => .ok (closeLoop head body tail)
    | none, _, _ => .error .noHead

/-- The head of the innermost open loop. -/
def innermostHead (outer : List Opening) : Option Token :=
  outer.head?.map Opening.head

/-- The bodies around the innermost one.  Each has the head of the loop that it belongs to, which the
next opening holds. -/
def bodiesAround : List Opening → List (OpenBody Annotated)
  | [] => []
  | opening :: outer => ⟨innermostHead outer, opening.parent⟩ :: bodiesAround outer

/-- On the stack of its unfinished bodies, with their heads, reading is the annotated reader's. -/
lemma read_builder (body : List Annotated) (outer : List Opening) (context : Pushback) :
    builder.read (⟨innermostHead outer, body⟩ :: bodiesAround outer) context =
      (readBodies body outer context).mapError .failure := by
  fun_induction readBodies body outer context with
  | case1 body outer context e after hnext =>
    rw [Builder.read_eq, hnext]
    rfl
  | case2 body context pos after hnext =>
    rw [Builder.read_eq, hnext]
    rfl
  | case3 body context pos after hnext opening outer =>
    rw [Builder.read_eq, hnext]
    rfl
  | case4 body outer context token after hnext _ hkind ih =>
    rw [Builder.read_eq, hnext]
    simp only [hkind]
    exact ih
  | case5 body outer context token after hnext _ hkind ih =>
    rw [Builder.read_eq, hnext]
    simp only [hkind]
    exact ih
  | case6 body outer context token after hnext _ hkind ih =>
    rw [Builder.read_eq, hnext]
    simp only [hkind]
    exact ih
  | case7 body context token after hnext _ hkind =>
    rw [Builder.read_eq, hnext]
    simp only [hkind]
    rfl
  | case8 body context token after hnext _ hkind opening outer ih =>
    simp only [List.unattach_reverse, List.unattach_attach] at ih
    rw [Builder.read_eq, hnext]
    simp only [hkind]
    exact ih
  | case9 body outer context token after hnext _ e behind hrun hout hin hhead htail =>
    rw [Builder.read_eq, hnext]
    simp only [hrun]
    rfl
  | case10 body outer context token after hnext _ run behind hrun _ hout hin hhead htail ih =>
    rw [Builder.read_eq, hnext]
    simp only [hrun]
    exact ih

/-- The annotated reader fails where the plain one does. -/
lemma ofStream_failure {stream : TokenStream} {failure : ReadFailure}
    (h : ofStream stream = .error failure) : ∃ e, failure = .source e := by
  have herase := erase_readBodies [] [] (.ofStream stream)
  have hreads : readBodies [] [] (.ofStream stream) = .error failure := h
  rw [hreads] at herase
  exact Program.readBodies_failure [] [] (.ofStream stream) herase.symm

end AnnotatedProgram

/-! ## Slot and stack -/

/-- **The slot serves whoever reads, and the readers never misuse it.**

After every history of calls on a stream with a slot, an item can be put back unless one that was put
back earlier still waits to be read; it is what is read next, and without the stream.  Folding reads a
longest run and leaves the item behind it to be read next (`Pushback.OneSlot`).

Hence reading a source fails only with an error of the source, never for the slot or for a run without
an axis.  Nor does it ever want a body or a head that is missing: on a bare stack, where such a
breakdown could occur, the plain and the annotated reader give the same as they do. -/
theorem Pushback.slot_serves_readers :
    (∀ (stream : TokenStream) (calls : List ReaderCall),
      ∃ record context, (Pushback.ofStream stream).session calls = (record, context) ∧
        context.OneSlot (heldIn record)) ∧
    ∀ (lexer : Lexer) (source : String),
      (∀ failure, lexer.parse source = .error failure → ∃ e, failure = .source e) ∧
      (∀ failure, lexer.parseAnnotated source = .error failure → ∃ e, failure = .source e) ∧
      Program.builder.ofStream (lexer.stream source) = (lexer.parse source).mapError .failure ∧
      AnnotatedProgram.builder.ofStream (lexer.stream source) =
        (lexer.parseAnnotated source).mapError .failure := by
  refine ⟨fun stream calls => ?_, fun lexer source => ⟨?_, ?_, ?_, ?_⟩⟩
  · exact ⟨_, _, rfl, Pushback.session_oneSlot stream calls⟩
  · intro failure h
    exact Program.readBodies_failure [] [] (.ofStream (lexer.stream source)) h
  · intro failure h
    exact AnnotatedProgram.ofStream_failure h
  · exact Program.read_builder [] [] (.ofStream (lexer.stream source)) none rfl
  · exact AnnotatedProgram.read_builder [] [] (.ofStream (lexer.stream source))

/-- A token is read and put back: it waits and is read again, nothing else can be put back, and a run that
starts with another token of its axis can be folded all the same. -/
theorem Pushback.returned_token_waits :
    ∃ record context,
      (Pushback.ofStream ⟨[.ok ⟨.pointerUp, ">", 0⟩, .ok ⟨.dataUp, "+", 1⟩], 2⟩).session
          [.next, .unget (.token ⟨.pointerUp, ">", 0⟩)] = (record, context) ∧
        heldIn record = .item (.token ⟨.pointerUp, ">", 0⟩) ∧
        context.next = (.ok (.token ⟨.pointerUp, ">", 0⟩), .ofStream context.stream) ∧
        (∀ item, context.unget item = (.error .slotTaken, context)) ∧
        context.Folds .pointer (-1) [⟨.pointerDown, "<", 7⟩]
          (context.foldRun (.token ⟨.pointerDown, "<", 7⟩)) := by
  obtain ⟨record, context, hsession, hslot⟩ := Pushback.slot_serves_readers.1
    ⟨[.ok ⟨.pointerUp, ">", 0⟩, .ok ⟨.dataUp, "+", 1⟩], 2⟩ [.next, .unget (.token ⟨.pointerUp, ">", 0⟩)]
  have hheld : heldIn record = .item (.token ⟨.pointerUp, ">", 0⟩) :=
    (congrArg (fun outcome => heldIn outcome.1) hsession).symm
  exact ⟨record, context, hsession, hheld, hslot.next_of_item _ hheld,
    hslot.unget_of_held (by simp [hheld]), hslot.foldRun_folds ⟨.pointerDown, "<", 7⟩ .pointer rfl⟩

end TapeLang
