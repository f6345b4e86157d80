import TapeLang.Lexer
import TapeLang.Program

/-!
# Token streams with a slot for one item

Folding a run of tokens means reading on until an item turns up that does not belong to it.  That
item is put back: a `Pushback` is a token stream with a slot in front that holds one item.

* `Pushback.next` empties the slot before it reads from the stream.
* `Pushback.unget` fills the slot, and refuses when it is taken.
* `Pushback.foldRun` reads the rest of a run and leaves the first item behind it in the slot.

`Pushback.weight` counts the tokens ahead.  Reading a token lowers it and folding a run does not
raise it, which is what a parser on top needs to come to an end.
-/

namespace TapeLang

/-! ## Axes -/

/-- The two things that runs of tokens move along: the pointer, and the contents of a cell. -/
inductive Axis where
  | pointer
  | data
deriving DecidableEq, Repr

/-- The axis of a command, if it has one. -/
def TokenKind.axis? : TokenKind → Option Axis
  | .pointerUp => some .pointer
  | .pointerDown => some .pointer
  | .dataUp => some .data
  | .dataDown => some .data
  | _ => none

/-- How far a command moves along an axis, if it moves along it at all. -/
def Axis.delta? : Axis → TokenKind → Option Int
  | .pointer, .pointerUp => some 1
  | .pointer, .pointerDown => some (-1)
  | .data, .dataUp => some 1
  | .data, .dataDown => some (-1)
  | _, _ => none

/-- A folded run: its axis, how far it moves in all, and its tokens. -/
structure Run where
  axis : Axis
  sum : Int
  tokens : List Token
deriving DecidableEq, Repr

/-- What a run does.  A run that moves nowhere does nothing. -/
def Run.action (run : Run) : Action :=
  if run.sum = 0 then .nop
  else
    match run.axis with
    | .pointer => .move run.sum
    | .data => .add run.sum

/-! ## The slot -/

/-- A wrong use of the slot. -/
inductive Misuse where
  /-- The slot already holds an item. -/
  | slotTaken
  /-- A run cannot start with this item. -/
  | notARun
deriving DecidableEq, Repr

/-- The wording of a wrong use, where there is one. -/
def Misuse.message? : Misuse → Option String
  | .slotTaken => some "a token was already pushed back"
  | .notARun => none

/-- Why reading a program failed: the source is at fault, or the reader itself. -/
inductive ReadFailure where
  | source (e : ParseError)
  | misuse (e : Misuse)
deriving DecidableEq, Repr

/-- A token stream with a slot for one item in front. -/
structure Pushback where
  stream : TokenStream
  slot : Option Item

namespace Pushback

/-- A stream with an empty slot. -/
def ofStream (stream : TokenStream) : Pushback :=
  { stream, slot := none }

/-- Takes the next item: the one in the slot, or else one from the stream. -/
def next (context : Pushback) : Except ParseError Item × Pushback :=
  match context.slot with
  | some item => (.ok item, { context with slot := none })
  | none =>
    match context.stream.next with
    | (result, stream) => (result, { context with stream })

/-- Puts an item into the slot. -/
def unget (context : Pushback) (item : Item) : Except Misuse Unit × Pushback :=
  match context.slot with
  | some _ => (.error .slotTaken, context)
  | none => (.ok (), { context with slot := some item })

/-- The number of tokens and errors ahead.  The end of the source does not count, wherever it
comes from. -/
def weight (context : Pushback) : Nat :=
  context.stream.pending.length +
    match context.slot with
    | some (.token _) => 1
    | _ => 0

/-- Reading a token leaves less to read. -/
theorem weight_lt_of_next {context after : Pushback} {token : Token}
    (h : context.next = (.ok (.token token), after)) : after.weight < context.weight := by
  rcases context with ⟨⟨pending, endPos⟩, slot⟩
  rcases slot with _ | item
  · rcases pending with _ | ⟨_ | _, pending⟩ <;>
      simp [next, TokenStream.next] at h
    simp [← h.2, weight]
  · simp only [next, Prod.mk.injEq, Except.ok.injEq] at h
    simp [← h.2, h.1, weight]

/-- Reading never leaves more to read. -/
theorem weight_le_of_next {context after : Pushback} {result : Except ParseError Item}
    (h : context.next = (result, after)) : after.weight ≤ context.weight := by
  rcases context with ⟨⟨pending, endPos⟩, slot⟩
  rcases slot with _ | item
  · rcases pending with _ | ⟨_ | _, pending⟩ <;>
      (simp only [next, TokenStream.next, Prod.mk.injEq] at h
       simp [← h.2, weight])
  · simp only [next, Prod.mk.injEq] at h
    simp [← h.2, weight]

/-! ## Folding runs -/

/-- Ends a run: the item that does not belong to it goes back into the slot. -/
def closeRun (context : Pushback) (run : Run) (item : Item) : Except ReadFailure Run × Pushback :=
  match context.unget item with
  | (.ok (), context) => (.ok run, context)
  | (.error e, context) => (.error (.misuse e), context)

/-- Reads on along an axis, from a run that is kept with its latest token first. -/
def collect (axis : Axis) (sum : Int) (latest : List Token) (context : Pushback) :
    Except ReadFailure Run × Pushback :=
  match _h : context.next with
  | (.error e, after) => (.error (.source e), after)
  | (.ok (.finish pos), after) => after.closeRun ⟨axis, sum, latest.reverse⟩ (.finish pos)
  | (.ok (.token token), after) =>
    match axis.delta? token.kind with
    | some delta => collect axis (sum + delta) (token :: latest) after
    | none => after.closeRun ⟨axis, sum, latest.reverse⟩ (.token token)
termination_by context.weight
decreasing_by exact weight_lt_of_next _h

/-- Reads the rest of the run that starts with `first`, an item that has been read already. -/
def foldRun (context : Pushback) (first : Item) : Except ReadFailure Run × Pushback :=
  match first with
  | .finish _ => (.error (.misuse .notARun), context)
  | .token token =>
    match token.kind.axis? with
    | none => (.error (.misuse .notARun), context)
    | some axis => collect axis ((axis.delta? token.kind).getD 0) [token] context

/-- Putting an item back behind a read leaves no more than there was before the read. -/
theorem weight_closeRun_le {context after : Pushback} {item : Item} (run : Run)
    (h : context.next = (.ok item, after)) : (after.closeRun run item).2.weight ≤ context.weight := by
  rcases context with ⟨⟨pending, endPos⟩, slot⟩
  rcases slot with _ | held
  · rcases pending with _ | ⟨_ | _, pending⟩ <;>
      simp [next, TokenStream.next] at h <;>
      simp [← h.1, ← h.2, closeRun, unget, weight]
  · simp only [next, Prod.mk.injEq, Except.ok.injEq] at h
    simp [← h.1, ← h.2, closeRun, unget, weight]

/-- Reading along an axis leaves no more to read than there was. -/
theorem weight_collect_le (axis : Axis) (sum : Int) (latest : List Token) (context : Pushback) :
    (collect axis sum latest context).2.weight ≤ context.weight := by
  fun_induction collect axis sum latest context with
  | case1 sum latest context e after h => exact weight_le_of_next h
  | case2 sum latest context pos after h => exact weight_closeRun_le _ h
  | case3 sum latest context token after h delta hdelta ih =>
    exact Nat.le_trans ih (Nat.le_of_lt (weight_lt_of_next h))
  | case4 sum latest context token after h hdelta => exact weight_closeRun_le _ h

/-- Folding a run leaves no more to read than there was. -/
theorem weight_foldRun_le (context : Pushback) (first : Item) :
    (context.foldRun first).2.weight ≤ context.weight := by
  unfold foldRun
  split
  · exact Nat.le_refl _
  · split
    · exact Nat.le_refl _
    · exact weight_collect_le _ _ _ _

end Pushback

end TapeLang
