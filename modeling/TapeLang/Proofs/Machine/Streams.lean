import TapeLang.Proofs.Machine.Failure

/-!
# Instructions and streams

Reading has to do with the input alone and writing with the output alone; every other instruction does
the same whatever the streams hold, and leaves them as they are.  What two runs on different streams have
in common rests on this.

* `Machine.perform_of_ne_input`, `Machine.perform_of_ne_output`: instructions that leave a stream alone.
* `Machine.perform_input_cases`, `Machine.perform_output_cases`: what reading does with any input, and
  writing with any output.
* `Machine.feed_perform_cases`: no instruction takes more than one byte from the input.
-/

namespace TapeLang

lemma Feed.read_of_cons {feed : Feed} {byte : UInt8} {rest : List UInt8} (hfailed : ¬ feed.failed = true)
    (hpending : feed.pending = byte :: rest) :
    feed.read = (.ok (some byte), { feed with pending := rest, consumed := feed.consumed + 1 }) := by
  rw [Feed.read, if_neg hfailed, hpending]

/-- What can come of reading: a failure, the end of the input, or its next byte. -/
lemma Feed.read_cases (feed : Feed) :
    feed.read = (.error .unreadable, feed) ∨
    (feed.pending = [] ∧ feed.read = (.ok none, feed)) ∨
    ∃ byte rest, feed.pending = byte :: rest ∧
      feed.read = (.ok (some byte), { feed with pending := rest, consumed := feed.consumed + 1 }) := by
  by_cases hfailed : feed.failed = true
  · exact .inl (by rw [Feed.read, if_pos hfailed])
  · cases hpending : feed.pending with
    | nil => exact .inr (.inl ⟨rfl, by rw [Feed.read, if_neg hfailed, hpending]⟩)
    | cons byte rest => exact .inr (.inr ⟨byte, rest, rfl, Feed.read_of_cons hfailed hpending⟩)

namespace Machine

/-! ## Instructions that leave a stream alone -/

/-- Whatever does not read leaves the input as it is, and does the same with any other input. -/
lemma perform_of_ne_input {instr : Instr} (h : instr ≠ .act .input) (machine : Machine) :
    (machine.perform instr).2.feed = machine.feed ∧
      ∀ feed, ({ machine with feed } : Machine).perform instr =
        ((machine.perform instr).1, { (machine.perform instr).2 with feed }) := by
  obtain ⟨pointer, memory, feed, sink⟩ := machine
  cases instr with
  | loop body =>
    simp only [perform, performLoop]
    rcases memory.get pointer with ⟨_ | cell, roomy⟩ <;> exact ⟨rfl, fun _ => rfl⟩
  | act action =>
    cases action with
    | move n | nop => exact ⟨rfl, fun _ => rfl⟩
    | add n =>
      simp only [perform, performAction]
      rcases memory.add pointer n with ⟨_ | ⟨⟩, added⟩ <;> exact ⟨rfl, fun _ => rfl⟩
    | output =>
      simp only [perform, performAction, performOutput]
      rcases memory.get pointer with ⟨_ | cell, roomy⟩
      · exact ⟨rfl, fun _ => rfl⟩
      · simp only
        rcases sink.write cell with ⟨_ | ⟨⟩, taken⟩ <;> exact ⟨rfl, fun _ => rfl⟩
    | input => exact absurd rfl h

/-- Whatever does not write leaves the output as it is, and does the same with any other output. -/
lemma perform_of_ne_output {instr : Instr} (h : instr ≠ .act .output) (machine : Machine) :
    (machine.perform instr).2.sink = machine.sink ∧
      ∀ sink, ({ machine with sink } : Machine).perform instr =
        ((machine.perform instr).1, { (machine.perform instr).2 with sink }) := by
  obtain ⟨pointer, memory, feed, sink⟩ := machine
  cases instr with
  | loop body =>
    simp only [perform, performLoop]
    rcases memory.get pointer with ⟨_ | cell, roomy⟩ <;> exact ⟨rfl, fun _ => rfl⟩
  | act action =>
    cases action with
    | move n | nop => exact ⟨rfl, fun _ => rfl⟩
    | add n =>
      simp only [perform, performAction]
      rcases memory.add pointer n with ⟨_ | ⟨⟩, added⟩ <;> exact ⟨rfl, fun _ => rfl⟩
    | output => exact absurd rfl h
    | input =>
      simp only [perform, performAction, performInput]
      rcases memory.get pointer with ⟨_ | cell, roomy⟩
      · exact ⟨rfl, fun _ => rfl⟩
      · simp only
        rcases feed.read with ⟨_ | _ | byte, left⟩
        · exact ⟨rfl, fun _ => rfl⟩
        · exact ⟨rfl, fun _ => rfl⟩
        · simp only
          rcases roomy.set pointer byte.toNat with ⟨_ | ⟨⟩, stored⟩ <;> exact ⟨rfl, fun _ => rfl⟩

/-! ## Reading and writing -/

/-- The cell is refused whatever the input; or it is the input that decides, and a byte is stored in a way
that does not depend on what is behind it. -/
lemma perform_input_cases (machine : Machine) :
    (∀ feed, ({ machine with feed } : Machine).perform (.act .input) =
      (.error (.outOfBounds ⟨machine.pointer⟩), { machine with feed })) ∨
    ∃ (roomy : Memory) (stored : UInt8 → Memory), ∀ feed,
      ({ machine with feed } : Machine).perform (.act .input) =
        match feed.read with
        | (.error cause, feed) => (.error (.io cause), { machine with memory := roomy, feed })
        | (.ok none, feed) => (.error .endOfInput, { machine with memory := roomy, feed })
        | (.ok (some byte), feed) =>
          (.ok .advance, { machine with memory := stored byte, feed }) := by
  obtain ⟨pointer, memory, _, sink⟩ := machine
  obtain hrefused | ⟨roomy, hget, -, -, hset⟩ := memory.get_cases pointer
  · exact .inl fun feed => by simp only [perform, performAction, performInput, hrefused]
  · choose stored hstored using hset
    refine .inr ⟨roomy, fun byte => stored byte.toNat, fun feed => ?_⟩
    rcases hread : feed.read with ⟨_ | _ | byte, left⟩ <;>
      simp only [perform, performAction, performInput, hget, hread, hstored]

/-- The cell is refused whatever the output; or the output is given a byte, and decides. -/
lemma perform_output_cases (machine : Machine) :
    (∀ sink, ({ machine with sink } : Machine).perform (.act .output) =
      (.error (.outOfBounds ⟨machine.pointer⟩), { machine with sink })) ∨
    ∃ (roomy : Memory) (byte : UInt8), roomy.peek = machine.memory.peek ∧
      ∀ sink result sink', sink.write byte = (result, sink') →
        ({ machine with sink } : Machine).perform (.act .output) =
          ((result.map fun _ => .advance).mapError .io,
            { machine with memory := roomy, sink := sink' }) := by
  obtain ⟨pointer, memory, feed, _⟩ := machine
  obtain hrefused | ⟨roomy, hget, hpeek, -, -⟩ := memory.get_cases pointer
  · exact .inl fun sink => by simp only [perform, performAction, performOutput, hrefused]
  · refine .inr ⟨roomy, memory.peek pointer, hpeek, fun sink result sink' hwrite => ?_⟩
    simp only [perform, performAction, performOutput, hget, hwrite]
    rcases result with cause | ⟨⟩ <;> rfl

/-! ## What becomes of the input -/

/-- An instruction takes one byte from the input or none. -/
lemma feed_perform_cases (machine : Machine) (instr : Instr) :
    (machine.perform instr).2.feed = machine.feed ∨
    ∃ byte rest, machine.feed.pending = byte :: rest ∧ (machine.perform instr).2.feed =
      { machine.feed with pending := rest, consumed := machine.feed.consumed + 1 } := by
  by_cases hinstr : instr = .act .input
  · subst hinstr
    obtain hrefused | ⟨roomy, stored, hperform⟩ := machine.perform_input_cases
    · exact .inl (by rw [hrefused machine.feed])
    · rw [hperform machine.feed]
      obtain hread | ⟨-, hread⟩ | ⟨byte, rest, hpending, hread⟩ := machine.feed.read_cases
      · exact .inl (by rw [hread])
      · exact .inl (by rw [hread])
      · exact .inr ⟨byte, rest, hpending, by rw [hread]⟩
  · exact .inl (perform_of_ne_input hinstr machine).1

/-- The end of the input is met only where nothing is left of it. -/
lemma pending_of_endOfInput {machine after : Machine} {instr : Instr}
    (h : machine.perform instr = (.error .endOfInput, after)) : after.feed.pending = [] := by
  have hinstr : instr = .act .input := by
    cases instr with
    | loop body =>
      simp only [perform, performLoop] at h
      split at h <;> simp at h
    | act action =>
      cases action with
      | input => rfl
      | move n => simp [perform, performAction] at h
      | nop => simp [perform, performAction] at h
      | add n =>
        simp only [perform, performAction] at h
        split at h <;> simp at h
      | output =>
        simp only [perform, performAction, performOutput] at h
        split at h
        · simp at h
        · split at h <;> simp at h
  subst hinstr
  obtain hrefused | ⟨roomy, stored, hperform⟩ := machine.perform_input_cases
  · simp [hrefused machine.feed] at h
  · rw [hperform machine.feed] at h
    obtain hread | ⟨hpending, hread⟩ | ⟨byte, rest, -, hread⟩ := machine.feed.read_cases
    · simp [hread] at h
    · simp only [hread, Prod.mk.injEq, true_and] at h
      exact h ▸ hpending
    · simp [hread] at h

end Machine

end TapeLang
