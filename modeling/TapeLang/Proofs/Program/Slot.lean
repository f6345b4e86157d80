import TapeLang.Proofs.Program.Ahead

/-!
# The slot in use

A `Pushback` may be asked for items, have items put back and fold runs in any order.  Whether its
slot is taken then depends on all the calls so far, and folding both empties and fills it.  This file
says what each call gives after every history of calls, without looking into the slot.

* `ReaderCall`, `Pushback.call`, `Pushback.session`: using a token stream with a slot, with a record of
  every call and its answer.
* `heldIn`: by the record, what was put back and has not been read since.  `Pushback.Holds.session` says
  that the slot has just that in it.
* `Pushback.Reads`, `Pushback.Folds`: reading tokens one by one, and folding described by it.
  `Pushback.foldRun_folds`: a longest run is read, and the first item behind it is what is read next.
* `Pushback.OneSlot`: all that can be expected of the next call.
* **`Pushback.session_oneSlot`**: it holds after every session.
-/

namespace TapeLang

/-- The axis that an item goes along, if it is a token that has one. -/
def Item.axis? (item : Item) : Option Axis :=
  item.kind?.bind TokenKind.axis?

/-! ## Using a slot -/

/-- What can be asked of a token stream with a slot. -/
inductive ReaderCall where
  | next
  | unget (item : Item)
  | foldRun (first : Item)
deriving DecidableEq, Repr

inductive ReaderAnswer where
  | read (result : Except ParseError Item)
  | put (result : Except Misuse Unit)
  | folded (result : Except ReadFailure Run)

/-- What waits in front of the stream to be read. -/
inductive Waiting where
  | nothing
  /-- An item that was put back. -/
  | item (item : Item)
  /-- The item behind a run that was folded. -/
  | behindRun
deriving DecidableEq, Repr

/-- What waits after one call more.  Reading takes it, and so does a run that is folded up to an error; a
call that was refused leaves it where it is. -/
def Waiting.after (waiting : Waiting) : ReaderCall × ReaderAnswer → Waiting
  | (.next, _) => .nothing
  | (.unget returned, .put (.ok ())) => .item returned
  | (.foldRun _, .folded (.ok _)) => .behindRun
  | (.foldRun _, .folded (.error (.source _))) => .nothing
  | _ => waiting

/-- What waits to be read by the record of all calls. -/
def heldIn (record : List (ReaderCall × ReaderAnswer)) : Waiting :=
  record.foldl Waiting.after .nothing

namespace Pushback

def call (context : Pushback) : ReaderCall → ReaderAnswer × Pushback
  | .next =>
    match context.next with
    | (result, context) => (.read result, context)
  | .unget item =>
    match context.unget item with
    | (result, context) => (.put result, context)
  | .foldRun first =>
    match context.foldRun first with
    | (result, context) => (.folded result, context)

/-- Makes one call after the other and records them with their answers. -/
def session (context : Pushback) : List ReaderCall → List (ReaderCall × ReaderAnswer) × Pushback
  | [] => ([], context)
  | first :: more =>
    match context.call first with
    | (answer, context) =>
      match context.session more with
      | (record, context) => ((first, answer) :: record, context)

lemma session_cons (context : Pushback) (first : ReaderCall) (more : List ReaderCall) :
    context.session (first :: more) =
      ((first, (context.call first).1) :: ((context.call first).2.session more).1,
        ((context.call first).2.session more).2) := rfl

/-! ## Folding, seen by a reader

Where an item comes from makes no difference to whoever reads, so folding is described by what reading
would have given in its place. -/

/-- Reading once for each of the tokens gives just them, and leaves `last`. -/
inductive Reads : Pushback → List Token → Pushback → Prop
  | nil (context : Pushback) : Reads context [] context
  | cons {context after last : Pushback} {token : Token} {more : List Token}
      (hnext : context.next = (.ok (.token token), after)) (hmore : Reads after more last) :
      Reads context (token :: more) last

/-- What becomes of a run along an axis that adds up to `sum` so far and has the tokens `before`. -/
inductive Folds (context : Pushback) (axis : Axis) (sum : Int) (before : List Token) :
    Except ReadFailure Run × Pushback → Prop
  /-- The stream fails while the run is read. -/
  | interrupted {taken : List Token} {last after : Pushback} {e : ParseError}
      (hreads : context.Reads taken last) (hrun : ∀ token ∈ taken, token.kind.axis? = some axis)
      (hnext : last.next = (.error e, after)) :
      Folds context axis sum before (.error (.source e), after)
  /-- The run ends at an item that does not go on along the axis.  The item is put back, and read again
  next. -/
  | ended {taken : List Token} {last after behind : Pushback} {item : Item}
      (hreads : context.Reads taken last) (hrun : ∀ token ∈ taken, token.kind.axis? = some axis)
      (hnext : last.next = (.ok item, after)) (hends : item.axis? ≠ some axis)
      (hput : after.unget item = (.ok (), behind)) (hagain : behind.next = (.ok item, after)) :
      Folds context axis sum before
        (.ok ⟨axis, sum + net (taken.map Token.kind), before ++ taken⟩, behind)

variable {context after behind : Pushback} {axis : Axis}

lemma unget_of_slot_eq_none (h : context.slot = none) (item : Item) :
    context.unget item = (.ok (), { context with slot := some item }) := by
  rw [unget, h]

lemma unget_of_slot_eq_some {held : Item} (h : context.slot = some held) (item : Item) :
    context.unget item = (.error .slotTaken, context) := by
  rw [unget, h]

/-- What putting back does when it is not refused. -/
lemma unget_ok {item : Item} (h : context.unget item = (.ok (), after)) :
    context.slot = none ∧ after = { context with slot := some item } := by
  cases hslot : context.slot with
  | none =>
    rw [unget_of_slot_eq_none hslot, Prod.mk.injEq] at h
    exact ⟨rfl, h.2.symm⟩
  | some held =>
    rw [unget_of_slot_eq_some hslot] at h
    simp at h

/-- Reading undoes putting back. -/
lemma next_of_unget {item : Item} (h : context.unget item = (.ok (), after)) :
    after.next = (.ok item, context) := by
  obtain ⟨hslot, rfl⟩ := unget_ok h
  rcases context with ⟨stream, slot⟩
  obtain rfl : slot = none := hslot
  rfl

lemma Folds.cons {token : Token} {sum : Int} {before : List Token}
    {outcome : Except ReadFailure Run × Pushback} (hnext : context.next = (.ok (.token token), after))
    (htoken : token.kind.axis? = some axis)
    (h : after.Folds axis (sum + token.kind.delta) (before ++ [token]) outcome) :
    context.Folds axis sum before outcome := by
  cases h with
  | interrupted hreads hrun hlast =>
    exact .interrupted (.cons hnext hreads) (List.forall_mem_cons.mpr ⟨htoken, hrun⟩) hlast
  | @ended taken last _ _ _ hreads hrun hlast hends hput hagain =>
    have hsum : sum + token.kind.delta + net (taken.map Token.kind) =
        sum + net ((token :: taken).map Token.kind) := by
      simp [Int.add_assoc]
    have htokens : before ++ [token] ++ taken = before ++ token :: taken := by simp
    rw [hsum, htokens]
    exact .ended (.cons hnext hreads) (List.forall_mem_cons.mpr ⟨htoken, hrun⟩) hlast hends hput
      hagain

/-- The item that ends a run goes into the slot, which reading it has just emptied. -/
lemma folds_closeRun {item : Item} (hnext : context.next = (.ok item, after))
    (hends : item.axis? ≠ some axis) (sum : Int) (before : List Token) :
    context.Folds axis sum before (after.closeRun ⟨axis, sum, before⟩ item) := by
  have hput := unget_of_slot_eq_none (slot_of_next hnext) item
  have hended : context.Folds axis sum before
      (.ok ⟨axis, sum + net [], before ++ []⟩, { after with slot := some item }) :=
    .ended (.nil context) (by simp) hnext hends hput (next_of_unget hput)
  rw [closeRun_of_slot (slot_of_next hnext)]
  simpa using hended

lemma collect_folds (axis : Axis) (sum : Int) (latest : List Token) (context : Pushback) :
    context.Folds axis sum latest.reverse (collect axis sum latest context) := by
  fun_induction collect axis sum latest context with
  | case1 sum latest context e after hnext => exact .interrupted (.nil context) (by simp) hnext
  | case2 sum latest context pos after hnext =>
    exact folds_closeRun hnext (by simp [Item.axis?, Item.kind?]) sum latest.reverse
  | case3 sum latest context token after hnext delta hdelta ih =>
    obtain ⟨haxis, rfl⟩ := Axis.axis?_of_delta? hdelta
    rw [List.reverse_cons] at ih
    exact ih.cons hnext haxis
  | case4 sum latest context token after hnext hdelta =>
    refine folds_closeRun hnext ?_ sum latest.reverse
    intro haxis
    rw [Axis.delta?_of_axis? haxis] at hdelta
    exact absurd hdelta (by simp)

/-- **Folding reads a longest run.** -/
theorem foldRun_folds {first : Token} (haxis : first.kind.axis? = some axis) (context : Pushback) :
    context.Folds axis first.kind.delta [first] (context.foldRun (.token first)) := by
  have h := collect_folds axis first.kind.delta [first] context
  simpa only [foldRun, haxis, Axis.delta?_of_axis? haxis, Option.getD_some, List.reverse_singleton]
    using h

/-! ## The slot after every history -/

/-- The slot has in it what waits to be read. -/
def Holds (context : Pushback) : Waiting → Prop
  | .nothing => context.slot = none
  | .item item => context.slot = some item
  | .behindRun => ∃ item, context.slot = some item

lemma Holds.exists_slot {waiting : Waiting} (h : context.Holds waiting) (hwaiting : waiting ≠ .nothing) :
    ∃ item, context.slot = some item := by
  cases waiting with
  | nothing => exact absurd rfl hwaiting
  | item item => exact ⟨item, h⟩
  | behindRun => exact h

/-- A run that was folded has left an item in the slot, and one that met an error has left none. -/
lemma Folds.holds {sum : Int} {before : List Token} {outcome : Except ReadFailure Run × Pushback}
    (h : context.Folds axis sum before outcome) (waiting : Waiting) (first : Item) :
    outcome.2.Holds (waiting.after (.foldRun first, .folded outcome.1)) := by
  cases h with
  | interrupted hreads hrun hnext => exact slot_of_next hnext
  | @ended _ _ _ _ item hreads hrun hnext hends hput hagain =>
    obtain ⟨-, rfl⟩ := unget_ok hput
    exact ⟨item, rfl⟩

lemma foldRun_of_axis?_eq_none {first : Item} (h : first.axis? = none) (context : Pushback) :
    context.foldRun first = (.error (.misuse .notARun), context) := by
  cases first with
  | finish pos => rfl
  | token token =>
    have hkind : token.kind.axis? = none := h
    simp only [foldRun, hkind]

/-- **The slot, by one call more.** -/
lemma Holds.call {waiting : Waiting} (h : context.Holds waiting) (call : ReaderCall) :
    (context.call call).2.Holds (waiting.after (call, (context.call call).1)) := by
  cases call with
  | next =>
    have hslot : context.next.2.slot = none := slot_of_next rfl
    exact hslot
  | unget item =>
    cases hslot : context.slot with
    | none =>
      rw [Pushback.call, unget_of_slot_eq_none hslot]
      rfl
    | some held =>
      rw [Pushback.call, unget_of_slot_eq_some hslot]
      exact h
  | foldRun first =>
    cases haxis : first.axis? with
    | none =>
      rw [Pushback.call, foldRun_of_axis?_eq_none haxis]
      exact h
    | some axis =>
      cases first with
      | finish pos => simp [Item.axis?, Item.kind?] at haxis
      | token first => exact (foldRun_folds haxis context).holds _ _

lemma Holds.session {waiting : Waiting} (h : context.Holds waiting) (calls : List ReaderCall) :
    (context.session calls).2.Holds ((context.session calls).1.foldl Waiting.after waiting) := by
  induction calls generalizing context waiting with
  | nil => exact h
  | cons first more ih =>
    rw [session_cons, List.foldl_cons]
    exact ih (h.call first)

/-- What the next call gives, `waiting` telling what is in front of the stream. -/
structure OneSlot (waiting : Waiting) (context : Pushback) : Prop where
  /-- Nothing can be put back in front of an item that waits, and trying to changes nothing. -/
  unget_of_held : waiting ≠ .nothing → ∀ item, context.unget item = (.error .slotTaken, context)
  /-- Otherwise any item can.  It is what is read next, and reading it leaves everything, the stream
  included, as it was before. -/
  unget_of_free : waiting = .nothing → ∀ item, ∃ filled,
    context.unget item = (.ok (), filled) ∧ filled.next = (.ok item, context)
  /-- An item that was put back is read without touching the stream. -/
  next_of_item : ∀ item, waiting = .item item → context.next = (.ok item, .ofStream context.stream)
  /-- So is the item behind a run. -/
  next_of_behindRun : waiting = .behindRun →
    ∃ item, context.next = (.ok item, .ofStream context.stream)
  /-- Otherwise the stream is read. -/
  next_of_free : waiting = .nothing →
    context.next = (context.stream.next.1, .ofStream context.stream.next.2)
  /-- A longest run is folded, whether or not an item waits. -/
  foldRun_folds : ∀ (first : Token) (axis : Axis), first.kind.axis? = some axis →
    context.Folds axis first.kind.delta [first] (context.foldRun (.token first))

lemma next_of_slot_eq_some {item : Item} (h : context.slot = some item) :
    context.next = (.ok item, .ofStream context.stream) := by
  rw [next, h]
  rfl

lemma Holds.oneSlot {waiting : Waiting} (h : context.Holds waiting) : context.OneSlot waiting where
  unget_of_held := by
    intro hwaiting item
    obtain ⟨held, hslot⟩ := h.exists_slot hwaiting
    exact unget_of_slot_eq_some hslot item
  unget_of_free := by
    rintro rfl item
    have hput := unget_of_slot_eq_none h item
    exact ⟨_, hput, next_of_unget hput⟩
  next_of_item := by
    rintro item rfl
    exact next_of_slot_eq_some h
  next_of_behindRun := by
    rintro rfl
    obtain ⟨held, hslot⟩ := h
    exact ⟨held, next_of_slot_eq_some hslot⟩
  next_of_free := by
    rintro rfl
    rcases context with ⟨stream, slot⟩
    obtain rfl : slot = none := h
    rfl
  foldRun_folds := fun _ _ haxis => Pushback.foldRun_folds haxis context

/-- **After every history the slot holds what was put back last, until it is read.** -/
theorem session_oneSlot (stream : TokenStream) (calls : List ReaderCall) :
    ((ofStream stream).session calls).2.OneSlot (heldIn ((ofStream stream).session calls).1) := by
  have hstart : (ofStream stream).Holds .nothing := rfl
  exact (hstart.session calls).oneSlot

end Pushback

end TapeLang
