import TapeLang.Proofs.Memory.CellMap

/-!
# What can be observed of a machine

Of a machine one sees its pointer, the contents of every cell and its two streams; how much of the tape
is stored one does not see.  A `View` is that much of a machine, with the tape as a total map, and
`View.act` performs actions on it.

A machine that `Shows` a view does what the view does: one lemma for an action, three for the test of a
loop.  They are all that the rest of the theory needs to know of `Machine.perform`.
-/

namespace TapeLang

/-- The observable part of a machine. -/
structure View where
  pointer : Int
  cells : CellMap
  feed : Feed
  sink : Sink

namespace View

def init (feed : Feed) (sink : Sink) : View :=
  { pointer := 0, cells := CellMap.blank, feed, sink }

/-- The contents of the current cell, which the policy may not have. -/
def access (policy : Policy) (view : View) : Except Fault UInt8 :=
  if policy.Excludes view.pointer then .error (.outOfBounds ⟨view.pointer⟩)
  else .ok (view.cells view.pointer)

def put (view : View) (cell : UInt8) : View :=
  { view with cells := Function.update view.cells view.pointer cell }

/-- Performs an action.  A failure changes nothing. -/
def act (policy : Policy) (view : View) : Action → Except Fault View
  | .move n => .ok { view with pointer := view.pointer + n }
  | .add n => do
    let cell ← view.access policy
    return view.put (cellOf (cell.toNat + n))
  | .output => do
    let cell ← view.access policy
    match view.sink.write cell with
    | (.error cause, _) => .error (.io cause)
    | (.ok (), sink) => return { view with sink }
  | .input => do
    let _ ← view.access policy
    match view.feed.read with
    | (.error cause, _) => .error (.io cause)
    | (.ok none, _) => .error .endOfInput
    | (.ok (some byte), feed) => return { view.put byte with feed }
  | .nop => .error (.notExecutable .nop)

lemma access_of_excludes {policy : Policy} {view : View} (h : policy.Excludes view.pointer) :
    view.access policy = .error (.outOfBounds ⟨view.pointer⟩) := by
  rw [access, if_pos h]

lemma access_of_includes {policy : Policy} {view : View} (h : ¬ policy.Excludes view.pointer) :
    view.access policy = .ok (view.cells view.pointer) := by
  rw [access, if_neg h]

lemma excludes_of_access {policy : Policy} {view : View} {fault : Fault}
    (h : view.access policy = .error fault) :
    policy.Excludes view.pointer ∧ fault = .outOfBounds ⟨view.pointer⟩ := by
  by_cases hout : policy.Excludes view.pointer
  · rw [access_of_excludes hout, Except.error.injEq] at h
    exact ⟨hout, h.symm⟩
  · simp [access_of_includes hout] at h

lemma includes_of_access {policy : Policy} {view : View} {cell : UInt8}
    (h : view.access policy = .ok cell) :
    ¬ policy.Excludes view.pointer ∧ cell = view.cells view.pointer := by
  by_cases hout : policy.Excludes view.pointer
  · simp [access_of_excludes hout] at h
  · rw [access_of_includes hout, Except.ok.injEq] at h
    exact ⟨hout, h.symm⟩

end View

/-- The machine looks like the view. -/
structure Machine.Shows (machine : Machine) (policy : Policy) (view : View) : Prop where
  pointer_eq : machine.pointer = view.pointer
  tape : machine.memory.Represents policy view.cells
  feed_eq : machine.feed = view.feed
  sink_eq : machine.sink = view.sink

/-! ## Streams that fail

A stream that gives no byte, or takes none, is left as it was. -/

lemma Sink.write_error {sink after : Sink} {byte : UInt8} {cause : IoCause}
    (h : sink.write byte = (.error cause, after)) : after = sink := by
  unfold Sink.write at h
  split at h <;> simp at h <;> exact h.2.symm

lemma Feed.read_error {feed after : Feed} {cause : IoCause}
    (h : feed.read = (.error cause, after)) : after = feed := by
  unfold Feed.read at h
  split at h
  · simp at h
    exact h.2.symm
  · split at h <;> simp at h

lemma Feed.read_none {feed after : Feed} (h : feed.read = (.ok none, after)) : after = feed := by
  unfold Feed.read at h
  split at h
  · simp at h
  · split at h <;> simp at h
    exact h.symm

/-! ## Performing actions -/

lemma cellOf_toNat (byte : UInt8) : cellOf byte.toNat = byte := by
  apply UInt8.toNat_inj.mp
  have hbyte := byte.toNat_lt
  simp only [cellOf, UInt8.toNat_ofNat']
  omega

namespace Machine

lemma init_shows (policy : Policy) (feed : Feed) (sink : Sink) :
    (init policy feed sink).Shows policy (View.init feed sink) :=
  ⟨rfl, Memory.blank_represents policy, rfl, rfl⟩

variable {machine : Machine} {policy : Policy} {view : View}

lemma Shows.unique {other : View} (h : machine.Shows policy view) (h' : machine.Shows policy other) :
    view = other := by
  have hcells : view.cells = other.cells := by
    funext address
    rw [← h.tape.peek_eq, ← h'.tape.peek_eq]
  cases view
  cases other
  simp only [View.mk.injEq]
  exact ⟨h.pointer_eq.symm.trans h'.pointer_eq, hcells, h.feed_eq.symm.trans h'.feed_eq,
    h.sink_eq.symm.trans h'.sink_eq⟩

/-- What a machine shows after an attempt that ends as the view says it does. -/
def Agrees (policy : Policy) (view : View) (expected : Except Fault View)
    (actual : Except Fault Next × Machine) : Prop :=
  match expected with
  | .ok next => actual.1 = .ok .advance ∧ actual.2.Shows policy next
  | .error fault => actual.1 = .error fault ∧ actual.2.Shows policy view

lemma performOutput_agrees (h : machine.Shows policy view) :
    Agrees policy view (view.act policy .output) machine.performOutput := by
  obtain ⟨pointer, memory, feed, sink⟩ := machine
  obtain ⟨rfl, htape, rfl, rfl⟩ := h
  by_cases hout : policy.Excludes view.pointer
  · simp only [performOutput, Memory.get_of_excludes htape hout, View.act,
      View.access_of_excludes hout]
    exact ⟨rfl, rfl, htape, rfl, rfl⟩
  · obtain ⟨after, hget, hafter⟩ := Memory.get_of_includes htape hout
    simp only [performOutput, hget, View.act, View.access_of_includes hout, bind, Except.bind]
    rcases hwrite : view.sink.write (view.cells view.pointer) with ⟨cause | ⟨⟩, sink⟩
    · have hsink : sink = view.sink := Sink.write_error hwrite
      exact ⟨rfl, rfl, hafter, rfl, hsink⟩
    · exact ⟨rfl, rfl, hafter, rfl, rfl⟩

lemma performInput_agrees (h : machine.Shows policy view) :
    Agrees policy view (view.act policy .input) machine.performInput := by
  obtain ⟨pointer, memory, feed, sink⟩ := machine
  obtain ⟨rfl, htape, rfl, rfl⟩ := h
  by_cases hout : policy.Excludes view.pointer
  · simp only [performInput, Memory.get_of_excludes htape hout, View.act,
      View.access_of_excludes hout]
    exact ⟨rfl, rfl, htape, rfl, rfl⟩
  · obtain ⟨roomy, hget, hroomy⟩ := Memory.get_of_includes htape hout
    simp only [performInput, hget, View.act, View.access_of_includes hout, bind, Except.bind]
    rcases hread : view.feed.read with ⟨cause | _ | byte, feed⟩
    · have hfeed : feed = view.feed := Feed.read_error hread
      exact ⟨rfl, rfl, hroomy, hfeed, rfl⟩
    · have hfeed : feed = view.feed := Feed.read_none hread
      exact ⟨rfl, rfl, hroomy, hfeed, rfl⟩
    · obtain ⟨after, hset, hafter⟩ := Memory.set_of_includes hroomy hout byte.toNat
      rw [cellOf_toNat] at hafter
      simp only [hset]
      exact ⟨rfl, rfl, hafter, rfl, rfl⟩

/-- **An action of the machine is the action of its view.**  A failure may make room on the tape, but
shows nothing new. -/
lemma performAction_agrees (h : machine.Shows policy view) (action : Action) :
    Agrees policy view (view.act policy action) (machine.performAction action) := by
  cases action with
  | move n =>
    obtain ⟨pointer, memory, feed, sink⟩ := machine
    obtain ⟨rfl, htape, rfl, rfl⟩ := h
    exact ⟨rfl, rfl, htape, rfl, rfl⟩
  | add n =>
    obtain ⟨pointer, memory, feed, sink⟩ := machine
    obtain ⟨rfl, htape, rfl, rfl⟩ := h
    by_cases hout : policy.Excludes view.pointer
    · simp only [performAction, Memory.add_of_excludes htape hout, View.act,
        View.access_of_excludes hout]
      exact ⟨rfl, rfl, htape, rfl, rfl⟩
    · obtain ⟨after, hadd, hafter⟩ := Memory.add_of_includes htape hout n
      simp only [performAction, hadd, View.act, View.access_of_includes hout]
      exact ⟨rfl, rfl, hafter, rfl, rfl⟩
  | output => exact performOutput_agrees h
  | input => exact performInput_agrees h
  | nop => exact ⟨rfl, h⟩

lemma Shows.perform_ok {next : View} {action : Action} (h : machine.Shows policy view)
    (hact : view.act policy action = .ok next) :
    ∃ after, machine.perform (.act action) = (.ok .advance, after) ∧ after.Shows policy next := by
  have hagrees := performAction_agrees h action
  rw [hact] at hagrees
  exact ⟨_, Prod.ext hagrees.1 rfl, hagrees.2⟩

lemma Shows.perform_error {fault : Fault} {action : Action} (h : machine.Shows policy view)
    (hact : view.act policy action = .error fault) :
    ∃ after, machine.perform (.act action) = (.error fault, after) ∧ after.Shows policy view := by
  have hagrees := performAction_agrees h action
  rw [hact] at hagrees
  exact ⟨_, Prod.ext hagrees.1 rfl, hagrees.2⟩

/-! ## Testing a loop -/

lemma Shows.loop_error {fault : Fault} (h : machine.Shows policy view)
    (haccess : view.access policy = .error fault) (body : Program) :
    ∃ after, machine.perform (.loop body) = (.error fault, after) ∧ after.Shows policy view := by
  obtain ⟨pointer, memory, feed, sink⟩ := machine
  obtain ⟨rfl, htape, rfl, rfl⟩ := h
  obtain ⟨hout, rfl⟩ := View.excludes_of_access haccess
  refine ⟨_, ?_, rfl, htape, rfl, rfl⟩
  simp only [perform, performLoop, Memory.get_of_excludes htape hout]

/-- The test of a loop changes nothing that shows. -/
lemma Shows.loop_ok {cell : UInt8} (h : machine.Shows policy view)
    (haccess : view.access policy = .ok cell) (body : Program) :
    ∃ after, machine.perform (.loop body) =
        (.ok (if cell = 0 then .advance else .enter body), after) ∧ after.Shows policy view := by
  obtain ⟨pointer, memory, feed, sink⟩ := machine
  obtain ⟨rfl, htape, rfl, rfl⟩ := h
  obtain ⟨hin, rfl⟩ := View.includes_of_access haccess
  obtain ⟨memory', hget, hafter⟩ := Memory.get_of_includes htape hin
  refine ⟨⟨view.pointer, memory', view.feed, view.sink⟩, ?_, rfl, hafter, rfl, rfl⟩
  simp only [perform, performLoop, hget]

end Machine

end TapeLang
