import TapeLang.Proofs.Program.Reading

/-!
# What lies ahead of a reader

A `Pushback` hands out the item in its slot first and the readings of its stream after it.  Whoever
reads from it need not know where an item comes from: this file describes it by the list of what it
has yet to hand out, and says what reading and folding do to that list.

* `Pushback.ahead`: the readings to come.
* `Pushback.Settled`: the slot may hold the end of the source, but only if nothing else is to come.
* `Pushback.FoldsTo`: what folding a run leaves behind.
* **`Pushback.foldRun_ok`**: folding takes up a longest run, and nothing is lost between the run and
  what lies ahead of the next reader.
-/

namespace TapeLang

lemma Axis.axis?_of_delta? {axis : Axis} {kind : TokenKind} {delta : Int}
    (h : axis.delta? kind = some delta) : kind.axis? = some axis ∧ kind.delta = delta := by
  have haxis : kind.axis? = some axis := by
    by_contra hne
    rw [Axis.delta?_of_axis?_ne hne] at h
    exact absurd h (by simp)
  rw [Axis.delta?_of_axis? haxis, Option.some.injEq] at h
  exact ⟨haxis, h⟩

namespace Pushback

/-- The readings that are still to be handed out. -/
def ahead (context : Pushback) : List Reading :=
  match context.slot with
  | some (.token token) => .ok token :: context.stream.pending
  | some (.finish _) | none => context.stream.pending

/-- The end of the source is put back only where the stream has come to it. -/
def Settled (context : Pushback) : Prop :=
  ∀ pos, context.slot = some (.finish pos) → context.stream.pending = []

variable {context after behind : Pushback} {axis : Axis} {token first : Token} {run : Run}

lemma ahead_ofStream (stream : TokenStream) : (ofStream stream).ahead = stream.pending := rfl

lemma settled_of_slot_eq_none (h : context.slot = none) : context.Settled := by
  intro pos hpos
  rw [h] at hpos
  exact absurd hpos (by simp)

/-! ## Reading -/

lemma settled_of_next {result : Except ParseError Item} (h : context.next = (result, after)) :
    after.Settled :=
  settled_of_slot_eq_none (slot_of_next h)

lemma ahead_of_next_token (h : context.next = (.ok (.token token), after)) :
    context.ahead = .ok token :: after.ahead := by
  rcases context with ⟨⟨pending, endPos⟩, _ | held⟩
  · rcases pending with _ | ⟨e | other, pending⟩
    · simp [next, TokenStream.next] at h
    · simp [next, TokenStream.next] at h
    · simp only [next, TokenStream.next, Prod.mk.injEq, Except.ok.injEq, Item.token.injEq] at h
      obtain ⟨rfl, rfl⟩ := h
      rfl
  · simp only [next, Prod.mk.injEq, Except.ok.injEq] at h
    obtain ⟨rfl, rfl⟩ := h
    rfl

lemma ahead_of_next_finish (hsettled : context.Settled) {pos : Nat}
    (h : context.next = (.ok (.finish pos), after)) : context.ahead = [] ∧ after.ahead = [] := by
  rcases context with ⟨⟨pending, endPos⟩, _ | held⟩
  · rcases pending with _ | ⟨e | other, pending⟩
    · simp only [next, TokenStream.next, Prod.mk.injEq] at h
      obtain ⟨-, rfl⟩ := h
      exact ⟨rfl, rfl⟩
    · simp [next, TokenStream.next] at h
    · simp [next, TokenStream.next] at h
  · simp only [next, Prod.mk.injEq, Except.ok.injEq] at h
    obtain ⟨rfl, rfl⟩ := h
    have hpending : pending = [] := hsettled pos rfl
    exact ⟨hpending, hpending⟩

/-! ## Folding -/

lemma closeRun_of_slot (h : context.slot = none) (run : Run) (item : Item) :
    context.closeRun run item = (.ok run, { context with slot := some item }) := by
  rw [closeRun, unget, h]

/-- The run has been folded as far as it goes. -/
structure FoldsTo (context : Pushback) (first : Token) (run : Run) (behind : Pushback) : Prop where
  ahead_eq : ∃ taken, run.tokens = first :: taken ∧ context.ahead = taken.map .ok ++ behind.ahead
  axis_eq : ∀ token ∈ run.tokens, token.kind.axis? = some run.axis
  sum_eq : run.sum = net (run.tokens.map Token.kind)
  leaves : Leaves run.axis behind.ahead
  settled : behind.Settled

/-- Reading along an axis takes up the tokens of the axis that lie ahead, and leaves the rest ahead of
the next reader. -/
lemma collect_ok {sum : Int} {latest : List Token} (hsettled : context.Settled)
    (h : collect axis sum latest context = (.ok run, behind)) :
    ∃ taken : List Token, run = ⟨axis, sum + net (taken.map Token.kind), latest.reverse ++ taken⟩ ∧
      context.ahead = taken.map .ok ++ behind.ahead ∧
      (∀ token ∈ taken, token.kind.axis? = some axis) ∧ Leaves axis behind.ahead ∧ behind.Settled := by
  fun_induction collect axis sum latest context with
  | case1 sum latest context e after hnext => simp at h
  | case2 sum latest context pos after hnext =>
    obtain ⟨hahead, hafter⟩ := ahead_of_next_finish hsettled hnext
    have hslot := slot_of_next hnext
    have hpending : after.stream.pending = [] := by simpa only [ahead, hslot] using hafter
    rw [closeRun_of_slot hslot, Prod.mk.injEq, Except.ok.injEq] at h
    obtain ⟨rfl, rfl⟩ := h
    refine ⟨[], by simp, ?_, by simp, ?_, fun _ _ => hpending⟩
    · rw [hahead]
      exact hpending.symm
    · intro token htoken
      simp [ahead, hpending] at htoken
  | case3 sum latest context token after hnext delta hdelta ih =>
    obtain ⟨haxis, rfl⟩ := Axis.axis?_of_delta? hdelta
    obtain ⟨taken, hrun, hahead, htaken, hleaves, hbehind⟩ := ih (settled_of_next hnext) h
    refine ⟨token :: taken, ?_, ?_, List.forall_mem_cons.mpr ⟨haxis, htaken⟩, hleaves, hbehind⟩
    · rw [hrun]
      simp [Int.add_assoc]
    · rw [ahead_of_next_token hnext, hahead]
      rfl
  | case4 sum latest context token after hnext hdelta =>
    have hslot := slot_of_next hnext
    have hne : token.kind.axis? ≠ some axis := by
      intro haxis
      rw [Axis.delta?_of_axis? haxis] at hdelta
      exact absurd hdelta (by simp)
    rw [closeRun_of_slot hslot, Prod.mk.injEq, Except.ok.injEq] at h
    obtain ⟨rfl, rfl⟩ := h
    refine ⟨[], by simp, ?_, by simp, ?_, fun pos hpos => absurd hpos (by simp)⟩
    · rw [ahead_of_next_token hnext]
      simp [ahead, hslot]
    · intro other hother
      rw [ahead, List.head?_cons, Option.some.injEq, Except.ok.injEq] at hother
      rwa [← hother]

/-- **Folding takes up a longest run.** -/
theorem foldRun_ok (hsettled : context.Settled)
    (h : context.foldRun (.token first) = (.ok run, behind)) : context.FoldsTo first run behind := by
  cases haxis : first.kind.axis? with
  | none => simp [foldRun, haxis] at h
  | some axis =>
    simp only [foldRun, haxis, Axis.delta?_of_axis? haxis, Option.getD_some] at h
    obtain ⟨taken, rfl, hahead, htaken, hleaves, hbehind⟩ := collect_ok hsettled h
    exact
      { ahead_eq := ⟨taken, rfl, hahead⟩
        axis_eq := List.forall_mem_cons.mpr ⟨haxis, htaken⟩
        sum_eq := (net_cons _ _).symm
        leaves := hleaves
        settled := hbehind }

end Pushback

end TapeLang
