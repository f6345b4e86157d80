import TapeLang.Proofs.Machine.Lockstep

/-!
# A tape without ends looks the same everywhere

On a tape without ends no address is special.  A program that starts elsewhere does the same there,
although the cells it uses may now be stored on the other side of the origin, in the other buffer and
counted in the other direction.  The buffers never enter into it: what holds of one instruction is said of
views, where moving along the tape is a change of variable.

* `View.shift`: the same view, some cells further on.
* `View.perform_shift`: an instruction commutes with that.
* `Machine.Shifted`: machines that look the same, some cells apart.
* **`Machine.shifted_same_run`**: whole runs.
-/

namespace TapeLang

/-! ## One instruction -/

namespace View

/-- The view seen from elsewhere: pointer and cells lie `d` addresses further to the right. -/
def shift (d : Int) (view : View) : View :=
  { view with pointer := view.pointer + d, cells := fun address => view.cells (address - d) }

variable (d : Int) (view : View)

@[simp] lemma shift_feed : (view.shift d).feed = view.feed := rfl

@[simp] lemma shift_sink : (view.shift d).sink = view.sink := rfl

lemma shift_shift_neg : (view.shift d).shift (-d) = view := by
  simp [shift]

lemma access_shift : (view.shift d).access .bothUnbounded = view.access .bothUnbounded := by
  have hnever (address : Int) : ¬ Policy.bothUnbounded.Excludes address := id
  rw [access_of_includes (hnever _), access_of_includes (hnever _)]
  simp [shift]

lemma put_shift (cell : UInt8) : (view.shift d).put cell = (view.put cell).shift d := by
  have hcells : Function.update (fun address => view.cells (address - d)) (view.pointer + d) cell =
      fun address => Function.update view.cells view.pointer cell (address - d) := by
    funext address
    by_cases hhere : address = view.pointer + d
    · subst hhere
      rw [Function.update_self, add_sub_cancel_right, Function.update_self]
    · have hthere : address - d ≠ view.pointer := fun h => hhere (by omega)
      rw [Function.update_of_ne hhere, Function.update_of_ne hthere]
  simp only [put, shift, hcells]

lemma act_shift (action : Action) :
    (view.shift d).act .bothUnbounded action = (view.act .bothUnbounded action).map (shift d) := by
  rcases haccess : view.access .bothUnbounded with fault | cell
  · exact absurd (excludes_of_access haccess).1 id
  · have haccess' := (view.access_shift d).trans haccess
    cases action with
    | move n => simp only [act, shift, Except.map, add_right_comm]
    | nop => rfl
    | add n =>
      simp only [act, haccess, haccess', bind, Except.bind, put_shift]
      rfl
    | output =>
      simp only [act, haccess, haccess', bind, Except.bind, shift_sink]
      rcases view.sink.write cell with ⟨cause | ⟨⟩, sink⟩ <;> rfl
    | input =>
      simp only [act, haccess, haccess', bind, Except.bind, put_shift, shift_feed]
      rcases view.feed.read with ⟨cause | _ | byte, feed⟩ <;> rfl

/-- **An instruction does not depend on where on the tape it is performed.** -/
lemma perform_shift (instr : Instr) :
    (view.shift d).perform .bothUnbounded instr =
      (view.perform .bothUnbounded instr).map (Prod.map id (shift d)) := by
  cases instr with
  | act action =>
    rw [perform, perform, act_shift]
    cases view.act .bothUnbounded action <;> rfl
  | loop body =>
    rw [perform, perform, access_shift]
    cases view.access .bothUnbounded <;> rfl

lemma lockstep_shift :
    Lockstep .bothUnbounded .bothUnbounded (fun view twin => twin = view.shift d) fun _ => True where
  ok := by
    rintro view _ instr next later rfl hdoes
    exact ⟨later.shift d, by rw [perform_shift, hdoes]; rfl, rfl⟩
  error := by
    rintro view _ instr fault rfl - hfails
    rw [perform_shift, hfails]
    rfl

end View

/-! ## Whole runs -/

namespace Machine

/-- The second machine looks like the first, with pointer and cells `d` addresses further to the
right. -/
structure Shifted (d : Int) (machine other : Machine) : Prop where
  pointer_eq : other.pointer = machine.pointer + d
  cells_eq : ∀ address, other.memory.peek (address + d) = machine.memory.peek address
  feed_eq : other.feed = machine.feed
  sink_eq : other.sink = machine.sink

variable {d : Int} {machine twin after : Machine} {program : Program} {result : Except Fault Unit}

lemma Twins.shifted
    (h : machine.Twins .bothUnbounded .bothUnbounded (fun view twin => twin = view.shift d) twin) :
    machine.Shifted d twin := by
  obtain ⟨view, _, hview, hview', rfl⟩ := h
  refine ⟨?_, fun address => ?_, ?_, ?_⟩
  · rw [hview'.pointer_eq, hview.pointer_eq]
    rfl
  · rw [hview'.tape.peek_eq, hview.tape.peek_eq]
    simp [View.shift]
  · rw [hview'.feed_eq, hview.feed_eq]
    rfl
  · rw [hview'.sink_eq, hview.sink_eq]
    rfl

/-- A machine that shows a view moved by `d` does what one does that shows the view itself. -/
lemma Halts.shift {view : View} (hview : machine.Shows .bothUnbounded view)
    (htwin : twin.Shows .bothUnbounded (view.shift d)) (h : Halts program machine (result, after)) :
    ∃ after', Halts program twin (result, after') ∧ after.Shifted d after' := by
  obtain ⟨depth, hrun⟩ := h
  have htwins : machine.Twins .bothUnbounded .bothUnbounded (fun view twin => twin = view.shift d)
      twin := ⟨view, _, hview, htwin, rfl⟩
  obtain ⟨after', hrun', hafter⟩ := (View.lockstep_shift d).run htwins (fun _ _ => trivial) hrun
  exact ⟨after', ⟨depth, hrun'⟩, hafter.shifted⟩

/-- **A program may start anywhere on a tape without ends.**  With a move in front it halts if and only if
it halts without, and then it ends in the same way with the same output and the same input consumed;
pointer and cells lie as far apart as the move went. -/
theorem shifted_same_run (program : Program) (d : Int) (feed : Feed) (sink : Sink) :
    ((∃ outcome, Halts (.act (.move d) :: program) (init .bothUnbounded feed sink) outcome) ↔
      ∃ outcome, Halts program (init .bothUnbounded feed sink) outcome) ∧
    ∀ result after result' after',
      Halts program (init .bothUnbounded feed sink) (result, after) →
      Halts (.act (.move d) :: program) (init .bothUnbounded feed sink) (result', after') →
        result' = result ∧ after.Shifted d after' := by
  have hstart := init_shows .bothUnbounded feed sink
  -- on a blank tape, moving the pointer is moving the view
  have hdoes : (View.init feed sink).perform .bothUnbounded (.act (.move d)) =
      .ok (.advance, (View.init feed sink).shift d) := rfl
  obtain ⟨moved, hmove, hmoved⟩ := hstart.does hdoes
  refine ⟨⟨?_, ?_⟩, ?_⟩
  · rintro ⟨⟨result, after'⟩, hhalts⟩
    have hback : (init .bothUnbounded feed sink).Shows .bothUnbounded
        (((View.init feed sink).shift d).shift (-d)) := by
      rw [View.shift_shift_neg]
      exact hstart
    obtain ⟨after, hplain, -⟩ := (hhalts.of_advance hmove).shift hmoved hback
    exact ⟨_, hplain⟩
  · rintro ⟨⟨result, after⟩, hhalts⟩
    obtain ⟨after', hthere, -⟩ := hhalts.shift hstart hmoved
    exact ⟨_, hthere.advance hmove⟩
  · intro result after result' after' hhalts hhalts'
    obtain ⟨reached, hthere, hreached⟩ := hhalts.shift hstart hmoved
    obtain ⟨rfl, rfl⟩ := Prod.mk.inj (hhalts'.unique (hthere.advance hmove))
    exact ⟨rfl, hreached⟩

end Machine

end TapeLang
