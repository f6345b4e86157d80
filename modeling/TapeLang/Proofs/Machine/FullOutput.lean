import TapeLang.Proofs.Machine.Streams
import TapeLang.Proofs.Machine.Tracing

/-!
# An output that gets full

An output may be set to be full after a number of bytes.  What it does with the next byte decides how the
run goes on: if it loses the byte in silence, nothing else changes; if it refuses the byte or does not take
it, the run ends there.  Either way it holds the beginning of what an output without a limit would hold.

* `Overflow.cause?`: what a full output is blamed for.
* `Sink.Cuts`: an output without a limit, and one that holds the beginning of the same bytes.
* `Machine.CutAlike`: machines that differ in nothing but such outputs.  They go in lockstep until a byte
  too many is written (`Machine.lockstep_of_cutAlike`), which is where the one with the full output fails
  (`Machine.CutAlike.overflows`).
* **`Machine.full_output_cuts_run`**: whole runs.
-/

namespace TapeLang

/-! ## Outputs with and without a limit -/

/-- What is wrong with a full output, unless it loses bytes in silence. -/
def Overflow.cause? : Overflow → Option IoCause
  | .refuse => some .unwritable
  | .stall => some .shortWrite
  | .drop => none

namespace Sink

/-- The second output has a limit, and holds as much of what the first one holds as the limit allows.
Otherwise neither of them loses or refuses anything. -/
structure Cuts (overflow : Overflow) (capacity : Nat) (whole cut : Sink) : Prop where
  unlimited : whole.limit = none
  limit_eq : cut.limit = some (overflow, capacity)
  whole_fate : ∀ taken, whole.fate taken = none
  cut_fate : ∀ taken, cut.fate taken = none
  written_eq : cut.written.toList = whole.written.toList.take capacity

variable {overflow : Overflow} {capacity : Nat} {whole cut : Sink}

lemma Cuts.write_whole (h : whole.Cuts overflow capacity cut) (byte : UInt8) :
    whole.write byte =
      (.ok (), { whole with written := whole.written.push byte, taken := whole.taken + 1 }) := by
  simp only [write, overflow?, h.unlimited, h.whole_fate]

lemma Cuts.size_eq (h : whole.Cuts overflow capacity cut) :
    cut.written.size = min capacity whole.written.size := by
  have hlength := congrArg List.length h.written_eq
  simpa using hlength

lemma Cuts.write_of_room (h : whole.Cuts overflow capacity cut)
    (hroom : whole.written.size < capacity) (byte : UInt8) :
    cut.write byte =
      (.ok (), { cut with written := cut.written.push byte, taken := cut.taken + 1 }) := by
  have hsize : cut.written.size < capacity := by
    rw [h.size_eq]
    omega
  simp only [write, overflow?, h.limit_eq, if_pos hsize, h.cut_fate]

/-- A full output does with a byte what its kind says. -/
lemma Cuts.write_of_full (h : whole.Cuts overflow capacity cut)
    (hfull : capacity ≤ whole.written.size) (byte : UInt8) :
    cut.write byte =
      overflow.cause?.elim (.ok (), { cut with taken := cut.taken + 1 }) fun cause => (.error cause, cut) := by
  have hsize : ¬ cut.written.size < capacity := by
    rw [h.size_eq]
    omega
  simp only [write, overflow?, h.limit_eq, if_neg hsize]
  cases overflow <;> rfl

/-- As long as there is room, or bytes are lost in silence, a byte more changes nothing. -/
lemma Cuts.write (h : whole.Cuts overflow capacity cut) (byte : UInt8)
    (hfits : overflow.cause? = none ∨ whole.written.size < capacity) :
    ∃ cut', cut.write byte = (.ok (), cut') ∧ Cuts overflow capacity
      { whole with written := whole.written.push byte, taken := whole.taken + 1 } cut' := by
  by_cases hroom : whole.written.size < capacity
  · refine ⟨_, h.write_of_room hroom byte, h.unlimited, h.limit_eq, h.whole_fate, h.cut_fate, ?_⟩
    have hlength : whole.written.toList.length < capacity := by simpa using hroom
    have hlonger : (whole.written.toList ++ [byte]).length ≤ capacity := by
      rw [List.length_append, List.length_singleton]
      omega
    rw [Array.toList_push, Array.toList_push, h.written_eq,
      List.take_of_length_le (Nat.le_of_lt hlength), List.take_of_length_le hlonger]
  · have hfull : capacity ≤ whole.written.size := Nat.le_of_not_lt hroom
    have hsilent : overflow.cause? = none := hfits.resolve_right hroom
    have hwrite := h.write_of_full hfull byte
    rw [hsilent] at hwrite
    refine ⟨_, hwrite, h.unlimited, h.limit_eq, h.whole_fate, h.cut_fate, ?_⟩
    have hlength : capacity ≤ whole.written.toList.length := by simpa using hfull
    rw [Array.toList_push, List.take_append_of_le_length hlength, h.written_eq]

end Sink

/-! ## One instruction -/

namespace Machine

/-- The machines differ in nothing but their outputs, of which the second one is cut off. -/
def CutAlike (overflow : Overflow) (capacity : Nat) (machine twin : Machine) : Prop :=
  ∃ sink, twin = { machine with sink } ∧ machine.sink.Cuts overflow capacity sink

variable {overflow : Overflow} {capacity : Nat} {machine twin after : Machine}

/-- Writing is refused the cell on both machines; or the one without a limit puts the contents of the cell
behind what is written, and the other one does what its output says. -/
lemma CutAlike.output_cases (h : machine.CutAlike overflow capacity twin) :
    (machine.perform (.act .output) = (.error (.outOfBounds ⟨machine.pointer⟩), machine) ∧
      twin.perform (.act .output) = (.error (.outOfBounds ⟨machine.pointer⟩), twin)) ∨
    ∃ (roomy : Memory) (byte : UInt8), roomy.peek = machine.memory.peek ∧
      machine.perform (.act .output) = (.ok .advance, { machine with
        memory := roomy
        sink := { machine.sink with
          written := machine.sink.written.push byte
          taken := machine.sink.taken + 1 } }) ∧
      ∀ result cut, twin.sink.write byte = (result, cut) →
        twin.perform (.act .output) = ((result.map fun _ => .advance).mapError .io,
          { twin with memory := roomy, sink := cut }) := by
  obtain ⟨sink, rfl, hcuts⟩ := h
  obtain hrefused | ⟨roomy, byte, hpeek, hwrites⟩ := machine.perform_output_cases
  · exact .inl ⟨hrefused machine.sink, hrefused sink⟩
  · have hmine := hwrites machine.sink _ _ (hcuts.write_whole byte)
    exact .inr ⟨roomy, byte, hpeek, hmine, hwrites sink⟩

lemma CutAlike.perform {instr : Instr} {result : Except Fault Next}
    (h : machine.CutAlike overflow capacity twin)
    (hwithin : overflow.cause? = none ∨ after.written.length ≤ capacity)
    (hperform : machine.perform instr = (result, after)) :
    ∃ after', twin.perform instr = (result, after') ∧ after.CutAlike overflow capacity after' := by
  by_cases hinstr : instr = .act .output
  · subst hinstr
    obtain ⟨hmine, hother⟩ | ⟨roomy, byte, -, hmine, hother⟩ := h.output_cases
    · rw [hperform, Prod.mk.injEq] at hmine
      obtain ⟨rfl, rfl⟩ := hmine
      exact ⟨twin, hother, h⟩
    · rw [hperform, Prod.mk.injEq] at hmine
      obtain ⟨rfl, rfl⟩ := hmine
      obtain ⟨sink, rfl, hcuts⟩ := h
      have hfits : overflow.cause? = none ∨ machine.sink.written.size < capacity := by
        refine hwithin.imp_right fun hle => ?_
        simp only [written, Array.toList_push, List.length_append, List.length_singleton,
          Array.length_toList] at hle
        omega
      obtain ⟨cut, hwrite, hcut⟩ := hcuts.write byte hfits
      exact ⟨_, hother _ cut hwrite, cut, rfl, hcut⟩
  · obtain ⟨sink, rfl, hcuts⟩ := h
    obtain ⟨hsink, hsame⟩ := perform_of_ne_output hinstr machine
    rw [hperform] at hsink hsame
    exact ⟨_, hsame sink, sink, rfl, hsink ▸ hcuts⟩

/-- Cut outputs keep machines in lockstep until a byte too many is written. -/
lemma lockstep_of_cutAlike (overflow : Overflow) (capacity : Nat) :
    Lockstep (CutAlike overflow capacity)
      (fun machine => overflow.cause? = none ∨ machine.written.length ≤ capacity)
      (fun _ => True) where
  within := fun machine instr hwithin =>
    hwithin.imp_right (machine.written_perform instr).length_le.trans
  ok := fun _ _ _ _ _ halike hwithin hperform => halike.perform hwithin hperform
  error := fun _ _ _ _ _ halike hwithin _ hperform => halike.perform hwithin hperform

/-- The instruction that writes a byte too many is an output, and fails where the output is full. -/
lemma CutAlike.overflows {instr : Instr} {result : Except Fault Next} {cause : IoCause}
    (h : machine.CutAlike overflow capacity twin) (hcause : overflow.cause? = some cause)
    (hle : machine.written.length ≤ capacity) (hperform : machine.perform instr = (result, after))
    (hover : capacity < after.written.length) :
    instr = .act .output ∧ machine.written.length = capacity ∧
      after.written.length = capacity + 1 ∧
      ∃ roomy : Memory, roomy.peek = machine.memory.peek ∧
        twin.perform instr = (.error (.io cause), { twin with memory := roomy }) := by
  have hinstr : instr = .act .output := by
    by_contra hother
    have hsink := (perform_of_ne_output hother machine).1
    rw [hperform] at hsink
    rw [written, hsink] at hover
    exact absurd hover (Nat.not_lt.mpr hle)
  subst hinstr
  obtain ⟨hmine, -⟩ | ⟨roomy, byte, hpeek, hmine, hother⟩ := h.output_cases
  · rw [hperform, Prod.mk.injEq] at hmine
    obtain ⟨-, rfl⟩ := hmine
    exact absurd hover (Nat.not_lt.mpr hle)
  · rw [hperform, Prod.mk.injEq] at hmine
    obtain ⟨-, rfl⟩ := hmine
    have hlonger : (machine.sink.written.push byte).toList.length = machine.written.length + 1 := by
      simp [written]
    have hover' : capacity < (machine.sink.written.push byte).toList.length := hover
    rw [hlonger] at hover'
    have hfull : machine.written.length = capacity := by omega
    refine ⟨rfl, hfull, by rw [← hfull]; exact hlonger, roomy, hpeek, ?_⟩
    obtain ⟨sink, rfl, hcuts⟩ := h
    have hsize : capacity ≤ machine.sink.written.size := by
      rw [← hfull, written, Array.length_toList]
    have hwrite := hcuts.write_of_full hsize byte
    rw [hcause] at hwrite
    exact hother _ sink hwrite

end Machine

/-! ## The step that goes too far -/

namespace Stepper

variable {program : Program} {stepper later stuck last : Stepper} {count capacity : Nat}

lemma Makes.written_prefix (h : stepper.Makes count later) :
    stepper.machine.written <+: later.machine.written := by
  induction count generalizing stepper with
  | zero =>
    obtain rfl := (makes_zero stepper).unique h
    exact List.prefix_refl _
  | succ count ih =>
    obtain ⟨report, mid, -, hstep, hmid⟩ := makes_succ_iff.mp h
    have hwritten := stepper.written_step
    rw [hstep] at hwritten
    exact hwritten.trans (ih hmid)

/-- Before more is written than a number of bytes, there is a step that is the first to do so. -/
lemma Makes.exists_overflowing (h : stepper.Makes count stuck)
    (hle : stepper.machine.written.length ≤ capacity)
    (hover : capacity < stuck.machine.written.length) :
    ∃ before mid report next, stepper.Makes before mid ∧ mid.path ≠ none ∧
      mid.machine.written.length ≤ capacity ∧ mid.step = (.ok report, next) ∧
      capacity < next.machine.written.length ∧ mid.machine.written <+: stuck.machine.written := by
  induction count generalizing stepper with
  | zero =>
    obtain rfl := (makes_zero stepper).unique h
    exact absurd hover (Nat.not_lt.mpr hle)
  | succ count ih =>
    obtain ⟨report, next, hpath, hstep, hnext⟩ := makes_succ_iff.mp h
    by_cases hnow : capacity < next.machine.written.length
    · exact ⟨0, stepper, report, next, makes_zero stepper, hpath, hle, hstep, hnow, h.written_prefix⟩
    · obtain ⟨before, mid, report', next', hbefore, hmid⟩ := ih hnext (Nat.le_of_not_lt hnow)
      exact ⟨before + 1, mid, report', next',
        makes_succ_iff.mpr ⟨report, next, hpath, hstep, hbefore⟩, hmid⟩

/-- A step that does not fail performs the instruction at its path. -/
lemma OnTrack.performs_of_step (h : OnTrack program stepper) {report : StepReport}
    (hpath : stepper.path ≠ none) (hstep : stepper.step = (.ok report, later)) :
    ∃ path frame outer next, stepper.path = some path ∧ Located program path frame outer ∧
      stepper.machine.perform frame.current = (.ok next, later.machine) := by
  obtain ⟨path, hsome⟩ := Option.ne_none_iff_exists'.mp hpath
  obtain ⟨frame, outer, hlocated⟩ := h.located hsome
  rcases stepper with ⟨own, machine, place, steps⟩
  obtain rfl : own = program := h.program_eq
  obtain rfl : place = some path := hsome
  rcases hperform : machine.perform frame.current with ⟨fault | next, after⟩
  · simp [step_of_error hlocated hperform] at hstep
  · obtain ⟨report', place, hstep', -⟩ := step_of_ok hlocated hperform steps
    rw [hstep', Prod.mk.injEq] at hstep
    obtain ⟨-, rfl⟩ := hstep
    exact ⟨path, frame, outer, next, rfl, hlocated, hperform⟩

/-- With any machine on which the instruction at its path fails, a step fails. -/
lemma OnTrack.step_of_fails (h : OnTrack program stepper) {path : Path} {frame : Frame}
    {outer : Agenda} {machine after : Machine} {fault : Fault} (hpath : stepper.path = some path)
    (hlocated : Located program path frame outer)
    (hperform : machine.perform frame.current = (.error fault, after)) :
    ({ stepper with machine } : Stepper).step =
      (.error (.fault fault), { stepper with machine := after }) := by
  rcases stepper with ⟨own, _, place, steps⟩
  obtain rfl : own = program := h.program_eq
  obtain rfl : place = some path := hpath
  exact step_of_error hlocated hperform steps

/-- Stopping writes nothing. -/
lemma OnTrack.written_of_stops (h : OnTrack program stuck) {result : Except StepError Unit}
    (hstops : stuck.Stops result last) : last.machine.written = stuck.machine.written := by
  obtain ⟨-, -, rfl⟩ | ⟨e, hstep, -⟩ := hstops
  · rfl
  · obtain ⟨path, frame, outer, fault, -, -, -, -, hbalks⟩ := h.balks_of_step hstep
    rw [Machine.written, Machine.written, hbalks.alike.sink_eq]

end Stepper

/-! ## Whole runs -/

namespace Machine

lemma init_cutAlike (policy : Policy) (feed : Feed) (overflow : Overflow) (capacity : Nat) :
    (init policy feed {}).CutAlike overflow capacity
      (init policy feed { limit := some (overflow, capacity) }) :=
  ⟨_, rfl, rfl, rfl, fun _ => rfl, fun _ => rfl, by simp [init]⟩

/-- **A full output cuts off what is written, and at most the run with it.**  Take any run that comes to an
end with an output without a limit.  If all that it writes fits, the run is the same on an output with a
limit.  If the output loses in silence what does not fit, the run is still the same but for what is lost.
Otherwise the run fails at the output, with as much written as fits; pointer, input and cells are then
those of the run without a limit at the output that writes the first byte too many. -/
theorem full_output_cuts_run (program : Program) (policy : Policy) (feed : Feed) (capacity depth : Nat)
    (result : Except Fault Unit) (after : Machine)
    (hrun : Machine.run depth program (init policy feed {}) = some (result, after)) :
    (∀ overflow, after.written.length ≤ capacity →
      ∃ after', Machine.run depth program
          (init policy feed { limit := some (overflow, capacity) }) = some (result, after') ∧
        after'.pointer = after.pointer ∧ after'.memory = after.memory ∧ after'.feed = after.feed ∧
        after'.written = after.written) ∧
    (∃ after', Machine.run depth program
        (init policy feed { limit := some (.drop, capacity) }) = some (result, after') ∧
      after'.pointer = after.pointer ∧ after'.memory = after.memory ∧ after'.feed = after.feed ∧
      after'.written = after.written.take capacity) ∧
    ∀ overflow cause, overflow.cause? = some cause → capacity < after.written.length →
      ∃ deeper after', Machine.run deeper program
          (init policy feed { limit := some (overflow, capacity) }) =
            some (.error (.io cause), after') ∧
        after'.written = after.written.take capacity ∧
        ∃ count mid report next, (Stepper.init program (init policy feed {})).Makes count mid ∧
          mid.current? = .ok (some (.act .output)) ∧ mid.machine.written.length = capacity ∧
          mid.step = (.ok report, next) ∧ next.machine.written.length = capacity + 1 ∧
          after'.pointer = mid.machine.pointer ∧ after'.feed = mid.machine.feed ∧
          ∀ address, after'.memory.peek address = mid.machine.memory.peek address := by
  refine ⟨fun overflow hfits => ?_, ?_, fun overflow cause hcause hover => ?_⟩
  · obtain ⟨after', hrun', sink, rfl, hcuts⟩ := (lockstep_of_cutAlike overflow capacity).run
      (init_cutAlike policy feed overflow capacity) (.inr hfits) (fun _ _ => trivial) hrun
    exact ⟨_, hrun', rfl, rfl, rfl, hcuts.written_eq.trans (List.take_of_length_le hfits)⟩
  · obtain ⟨after', hrun', sink, rfl, hcuts⟩ := (lockstep_of_cutAlike .drop capacity).run
      (init_cutAlike policy feed .drop capacity) (.inl rfl) (fun _ _ => trivial) hrun
    exact ⟨_, hrun', rfl, rfl, rfl, hcuts.written_eq⟩
  · obtain ⟨total, stuck, last, hmakes, hstops, rfl⟩ :=
      (Stepper.halts_iff_stops program _ after _).mp ⟨depth, hrun⟩
    have htrack := Stepper.onTrack_init program (init policy feed {})
    have hwritten := (hmakes.onTrack htrack).written_of_stops hstops
    rw [hwritten] at hover ⊢
    obtain ⟨count, mid, report, next, hmid, hpath, hle, hstep, hnext, hprefix⟩ :=
      hmakes.exists_overflowing (Nat.zero_le capacity) hover
    have hmidTrack := hmid.onTrack htrack
    obtain ⟨path, frame, outer, action, hplace, hlocated, hperform⟩ :=
      hmidTrack.performs_of_step hpath hstep
    -- up to here the limit was not felt
    obtain ⟨twin, htwin, halike⟩ := (lockstep_of_cutAlike overflow capacity).makes
      (init_cutAlike policy feed overflow capacity) (.inr hle) hmid
    obtain ⟨houtput, hfull, hlonger, roomy, hpeek, hfails⟩ :=
      halike.overflows hcause hle hperform hnext
    have hfailed := hmidTrack.step_of_fails hplace hlocated hfails
    obtain ⟨deeper, hrun'⟩ := (Stepper.halts_iff_stops program _ _ (.error (.io cause))).mpr
      ⟨count, _, _, htwin, .inr ⟨_, hfailed, rfl⟩, rfl⟩
    have hcurrent : mid.current? = .ok (some (.act .output)) := by
      rw [Stepper.current?, hplace, hmidTrack.program_eq]
      simp only [hlocated.instrAt, houtput, Except.map]
    have htake : mid.machine.written = stuck.machine.written.take capacity := by
      rw [← hfull]
      exact List.prefix_iff_eq_take.mp hprefix
    obtain ⟨sink, rfl, hcuts⟩ := halike
    refine ⟨deeper, _, hrun', ?_, count, mid, report, next, hmid, hcurrent, hfull, hstep, hlonger,
      rfl, rfl, fun address => congrFun hpeek address⟩
    calc sink.written.toList = mid.machine.written.take capacity := hcuts.written_eq
      _ = mid.machine.written := List.take_of_length_le hle
      _ = stuck.machine.written.take capacity := htake

/-- The program `+.+.` writes two bytes; an output with room for one takes the first and refuses the
second. -/
theorem second_byte_cuts_run :
    (∃ after, Machine.run 5 [.act (.add 1), .act .output, .act (.add 1), .act .output]
        (init (.fixed 1) { pending := [] } {}) = some (.ok (), after) ∧ after.written = [1, 2]) ∧
    ∃ deeper after', Machine.run deeper [.act (.add 1), .act .output, .act (.add 1), .act .output]
        (init (.fixed 1) { pending := [] } { limit := some (.refuse, 1) }) =
          some (.error (.io .unwritable), after') ∧ after'.written = [1] := by
  obtain ⟨-, -, hover⟩ := full_output_cuts_run
    [.act (.add 1), .act .output, .act (.add 1), .act .output] (.fixed 1) { pending := [] } 1 5 _ _ rfl
  obtain ⟨deeper, after', hrun, hwritten, -⟩ := hover .refuse .unwritable rfl (by decide)
  exact ⟨⟨_, rfl, rfl⟩, deeper, after', hrun, hwritten⟩

end Machine

end TapeLang
