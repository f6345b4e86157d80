import TapeLang.Proofs.Machine.Streams

/-!
# Input that is not read

A machine asks for one byte at a time, and only after it knows that it has a cell for it.  Nothing reads
ahead, so what a run does is settled by the bytes it has consumed, and the bytes behind them might as well
be others.

* `Feed.Agrees`: two inputs that cannot be told apart before a certain number of bytes is consumed.
* `Machine.FedAlike`: machines that differ in nothing but such inputs.  `Machine.FedAlike.perform` is one
  instruction; it need not be followed at the end of the input, which may come sooner on the other side.
* **`Machine.unread_input_same_run`**: whole runs, and how far a run gets that is short of input.
-/

namespace TapeLang

/-! ## Inputs that agree for a while -/

/-- The inputs have delivered equally many bytes, and deliver the same ones until there are `count`. -/
structure Feed.Agrees (count : Nat) (feed other : Feed) : Prop where
  consumed_eq : other.consumed = feed.consumed
  failsAfter_eq : other.failsAfter = feed.failsAfter
  ahead : other.pending.take (count - feed.consumed) = feed.pending.take (count - feed.consumed)

/-- What one input delivers before the `count`-th byte is consumed, the other delivers too. -/
lemma Feed.Agrees.read {count : Nat} {feed other after : Feed}
    {result : Except IoCause (Option UInt8)} (h : feed.Agrees count other)
    (hread : feed.read = (result, after)) (hresult : result ≠ .ok none)
    (hwithin : after.consumed ≤ count) :
    ∃ after', other.read = (result, after') ∧ after.Agrees count after' := by
  have hfailed : other.failed = feed.failed := by
    rw [Feed.failed, Feed.failed, h.failsAfter_eq, h.consumed_eq]
  by_cases hfails : feed.failed = true
  · rw [Feed.read, if_pos hfails, Prod.mk.injEq] at hread
    obtain ⟨rfl, rfl⟩ := hread
    exact ⟨other, by rw [Feed.read, if_pos (hfailed.trans hfails)], h⟩
  · cases hpending : feed.pending with
    | nil =>
      rw [Feed.read, if_neg hfails, hpending, Prod.mk.injEq] at hread
      exact absurd hread.1.symm hresult
    | cons byte rest =>
      rw [Feed.read_of_cons hfails hpending, Prod.mk.injEq] at hread
      obtain ⟨rfl, rfl⟩ := hread
      obtain ⟨left, hleft⟩ : ∃ left, count - feed.consumed = left + 1 :=
        ⟨count - feed.consumed - 1, by simp only at hwithin; omega⟩
      have hahead := h.ahead
      rw [hpending, hleft, List.take_succ_cons] at hahead
      -- a byte is left before the bound, so the other input has it as well
      cases hother : other.pending with
      | nil => simp [hother] at hahead
      | cons byte' rest' =>
        rw [hother, List.take_succ_cons, List.cons.injEq] at hahead
        obtain ⟨rfl, hrest⟩ := hahead
        have hleft' : count - (feed.consumed + 1) = left := by omega
        refine ⟨_, Feed.read_of_cons (hfailed ▸ hfails) hother, ?_, h.failsAfter_eq, ?_⟩
        · simp only [h.consumed_eq]
        · simp only [hleft', hrest]

/-! ## One instruction -/

namespace Machine

/-- The machines differ in nothing but their inputs, and those agree up to the `count`-th byte. -/
def FedAlike (count : Nat) (machine twin : Machine) : Prop :=
  ∃ feed, twin = { machine with feed } ∧ machine.feed.Agrees count feed

variable {count : Nat} {machine twin after : Machine}

lemma FedAlike.perform {instr : Instr} {result : Except Fault Next}
    (h : machine.FedAlike count twin) (hwithin : after.feed.consumed ≤ count)
    (hresult : result ≠ .error .endOfInput) (hperform : machine.perform instr = (result, after)) :
    ∃ after', twin.perform instr = (result, after') ∧ after.FedAlike count after' := by
  obtain ⟨feed, rfl, hagrees⟩ := h
  by_cases hinstr : instr = .act .input
  · subst hinstr
    obtain hrefused | ⟨roomy, stored, hinput⟩ := machine.perform_input_cases
    · have hmine : machine.perform (.act .input) = _ := hrefused machine.feed
      rw [hperform, Prod.mk.injEq] at hmine
      obtain ⟨rfl, rfl⟩ := hmine
      exact ⟨_, hrefused feed, feed, rfl, hagrees⟩
    · have hmine : machine.perform (.act .input) = _ := hinput machine.feed
      rw [hinput feed]
      rcases hread : machine.feed.read with ⟨cause | _ | byte, left⟩
      · simp only [hperform, hread, Prod.mk.injEq] at hmine
        obtain ⟨rfl, rfl⟩ := hmine
        obtain ⟨left', hread', hleft⟩ := hagrees.read hread (by simp) hwithin
        exact ⟨_, by rw [hread'], left', rfl, hleft⟩
      · simp only [hperform, hread, Prod.mk.injEq] at hmine
        exact absurd hmine.1 hresult
      · simp only [hperform, hread, Prod.mk.injEq] at hmine
        obtain ⟨rfl, rfl⟩ := hmine
        obtain ⟨left', hread', hleft⟩ := hagrees.read hread (by simp) hwithin
        exact ⟨_, by rw [hread'], left', rfl, hleft⟩
  · obtain ⟨hfeed, hsame⟩ := perform_of_ne_input hinstr machine
    rw [hperform] at hfeed hsame
    exact ⟨_, hsame feed, feed, rfl, hfeed ▸ hagrees⟩

lemma consumed_le_perform (machine : Machine) (instr : Instr) :
    machine.feed.consumed ≤ (machine.perform instr).2.feed.consumed := by
  obtain hsame | ⟨byte, rest, -, htaken⟩ := machine.feed_perform_cases instr
  · rw [hsame]
  · rw [htaken]
    exact Nat.le_succ _

/-- Inputs that agree for a while keep machines in lockstep for as long. -/
lemma lockstep_of_fedAlike (count : Nat) :
    Lockstep (FedAlike count) (fun machine => machine.feed.consumed ≤ count)
      (fun fault => fault ≠ .endOfInput) where
  within := fun machine instr hwithin => (machine.consumed_le_perform instr).trans hwithin
  ok := fun _ _ _ _ _ halike hwithin hperform => halike.perform hwithin (by simp) hperform
  error := fun _ _ _ _ _ halike hwithin hshared hperform =>
    halike.perform hwithin (by simpa using hshared) hperform

/-! ## Whole runs -/

/-- What is consumed and what is still to come make up the whole input. -/
lemma delivered_perform {total : Nat} (machine : Machine) (instr : Instr)
    (h : machine.feed.consumed + machine.feed.pending.length = total) :
    (machine.perform instr).2.feed.consumed + (machine.perform instr).2.feed.pending.length =
      total := by
  obtain hsame | ⟨byte, rest, hpending, htaken⟩ := machine.feed_perform_cases instr
  · rw [hsame, h]
  · rw [hpending, List.length_cons] at h
    rw [htaken]
    simp only
    omega

lemma delivered_run {depth : Nat} {program : Program} {policy : Policy} {sink : Sink}
    {input : List UInt8} {result : Except Fault Unit}
    (hrun : Machine.run depth program (init policy { pending := input } sink) = some (result, after)) :
    after.feed.consumed + after.feed.pending.length = input.length := by
  have hstart : (init policy { pending := input } sink).feed.consumed +
      (init policy { pending := input } sink).feed.pending.length = input.length := by
    simp [init]
  exact run_preserves (fun machine instr => machine.delivered_perform instr) hstart hrun

/-- **Unread input makes no difference.**  A run that does not fail for want of input does the same on any
input that begins with the bytes it consumed: it ends in the same way and leaves the same pointer, tape
(both buffers included) and output, and it consumes as many bytes.  A run that fails for want of input has
consumed all of it; whatever is put behind that input, the stepper makes as many steps, and they lead to
the same place with the same pointer, output and cells. -/
theorem unread_input_same_run (program : Program) (policy : Policy) (sink : Sink)
    (input : List UInt8) :
    (∀ depth result after,
      Machine.run depth program (init policy { pending := input } sink) = some (result, after) →
      result ≠ .error .endOfInput → ∀ other, input.take after.feed.consumed <+: other →
        ∃ after', Machine.run depth program (init policy { pending := other } sink) =
            some (result, after') ∧
          after'.pointer = after.pointer ∧ after'.memory = after.memory ∧
          after'.sink = after.sink ∧ after'.feed.consumed = after.feed.consumed) ∧
    ∀ depth after,
      Machine.run depth program (init policy { pending := input } sink) =
        some (.error .endOfInput, after) →
      after.feed.consumed = input.length ∧
      ∃ count stuck last,
        (Stepper.init program (init policy { pending := input } sink)).Makes count stuck ∧
        stuck.step = (.error (.fault .endOfInput), last) ∧ last.machine = after ∧
        ∀ more, ∃ later,
          (Stepper.init program (init policy { pending := input ++ more } sink)).Makes count later ∧
          later.path = last.path ∧ later.machine.pointer = last.machine.pointer ∧
          later.machine.sink = last.machine.sink ∧
          ∀ address, later.machine.memory.peek address = last.machine.memory.peek address := by
  constructor
  · intro depth result after hrun hresult other hother
    have hdelivered := delivered_run hrun
    have htake : other.take after.feed.consumed = input.take after.feed.consumed := by
      have hlength : (input.take after.feed.consumed).length = after.feed.consumed := by
        rw [List.length_take]
        omega
      have heq := List.prefix_iff_eq_take.mp hother
      rw [hlength] at heq
      exact heq.symm
    have hstart : (init policy { pending := input } sink).FedAlike after.feed.consumed
        (init policy { pending := other } sink) := ⟨{ pending := other }, rfl, rfl, rfl, htake⟩
    have hshared : ∀ fault, result = .error fault → fault ≠ .endOfInput := by
      rintro fault rfl rfl
      exact hresult rfl
    obtain ⟨after', hrun', feed, rfl, hagrees⟩ :=
      (lockstep_of_fedAlike after.feed.consumed).run hstart le_rfl hshared hrun
    exact ⟨_, hrun', rfl, rfl, rfl, hagrees.consumed_eq⟩
  · intro depth after hrun
    have hdelivered := delivered_run hrun
    obtain ⟨count, stuck, last, hmakes, hstops, rfl⟩ :=
      (Stepper.halts_iff_stops program _ after _).mp ⟨depth, hrun⟩
    obtain ⟨-, hfinished, -⟩ | ⟨e, hstep, he⟩ := hstops
    · simp [Except.mapError] at hfinished
    · simp only [Except.mapError, Except.error.injEq] at he
      subst he
      have htrack := hmakes.onTrack (Stepper.onTrack_init program _)
      obtain ⟨path, frame, outer, fault, -, -, hfault, hlast, hbalks⟩ := htrack.balks_of_step hstep
      obtain rfl : Fault.endOfInput = fault := StepError.fault.inj hfault
      have hconsumed : last.machine.feed.consumed = input.length := by
        rw [pending_of_endOfInput hbalks.again] at hdelivered
        exact hdelivered
      refine ⟨hconsumed, count, stuck, last, hmakes, hstep, rfl, fun more => ?_⟩
      have hstart : (init policy { pending := input } sink).FedAlike input.length
          (init policy { pending := input ++ more } sink) :=
        ⟨{ pending := input ++ more }, rfl, rfl, rfl, by simp [init]⟩
      have hwithin : stuck.machine.feed.consumed ≤ input.length := by
        rw [← hbalks.alike.feed_eq, hconsumed]
      obtain ⟨reached, hreached, feed, rfl, -⟩ :=
        (lockstep_of_fedAlike input.length).makes hstart hwithin hmakes
      refine ⟨_, hreached, ?_, hbalks.alike.pointer_eq.symm, hbalks.alike.sink_eq.symm,
        fun address => (hbalks.alike.cells_eq address).symm⟩
      rw [hlast]

end Machine

end TapeLang
