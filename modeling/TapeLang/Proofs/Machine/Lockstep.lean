import TapeLang.Proofs.Machine.Lifetime
import TapeLang.Proofs.Machine.View

/-!
# Two machines in lockstep

Two runs of one program can differ in their machines: in the policy of the tape, in what is on it, in
the streams.  They go the same way as long as every instruction does the same on both sides and leaves
machines that are related in the same way as before.

* `Machine.Lockstep`: the condition on a relation between machines, for one instruction at a time.
* `Machine.Lockstep.run`, `Machine.Lockstep.makes`: whole runs and counted steps keep the relation.
  `Machine.run_preserves` is the case of a machine beside itself.
* `View.perform`: an instruction performed on a view.  `Machine.Shows.does` and
  `Machine.Shows.fails` say that a machine does what its view does.
* `View.Lockstep`: the condition on a relation between views, from which it follows for the machines that
  show them.
-/

namespace TapeLang

/-! ## Machines side by side -/

namespace Machine

/-- An instruction does the same on related machines, and leaves related machines.  This is asked for as
long as the first machine is `Within` what the second one can follow, a range to which no instruction
leads back.  Of the failures on the first side, those that are `Shared` occur on the second as well. -/
structure Lockstep (Related : Machine → Machine → Prop) (Within : Machine → Prop)
    (Shared : Fault → Prop) : Prop where
  within : ∀ machine instr, Within (machine.perform instr).2 → Within machine
  ok : ∀ machine twin instr next after, Related machine twin → Within after →
    machine.perform instr = (.ok next, after) →
      ∃ after', twin.perform instr = (.ok next, after') ∧ Related after after'
  error : ∀ machine twin instr fault after, Related machine twin → Within after → Shared fault →
    machine.perform instr = (.error fault, after) →
      ∃ after', twin.perform instr = (.error fault, after') ∧ Related after after'

end Machine

namespace Machine.Lockstep

variable {Related : Machine → Machine → Prop} {Within : Machine → Prop} {Shared : Fault → Prop}
  {machine twin after : Machine}

lemma within_of_perform (h : Lockstep Related Within Shared) {instr : Instr}
    {result : Except Fault Next} (hwithin : Within after)
    (hperform : machine.perform instr = (result, after)) : Within machine := by
  apply h.within machine instr
  rw [hperform]
  exact hwithin

/-- A run that ends within the range was there all the time. -/
lemma within_of_run (h : Lockstep Related Within Shared) {depth : Nat} {program : Program}
    {result : Except Fault Unit} (hwithin : Within after)
    (hrun : Machine.run depth program machine = some (result, after)) : Within machine := by
  induction depth generalizing program machine result after with
  | zero => simp [Machine.run] at hrun
  | succ depth ih =>
    cases program with
    | nil =>
      simp only [Machine.run, Option.some.injEq, Prod.mk.injEq] at hrun
      obtain ⟨-, rfl⟩ := hrun
      exact hwithin
    | cons instr more =>
      rcases hperform : machine.perform instr with ⟨fault | next, midway⟩
      · rw [Machine.run_of_error hperform, Option.some.injEq, Prod.mk.injEq] at hrun
        obtain ⟨-, rfl⟩ := hrun
        exact h.within_of_perform hwithin hperform
      · apply h.within_of_perform _ hperform
        cases next with
        | advance =>
          rw [Machine.run_of_advance hperform] at hrun
          exact ih hwithin hrun
        | enter body =>
          rw [Machine.run_of_enter hperform] at hrun
          obtain ⟨⟨bodyResult, left⟩, hbody, hrest⟩ := Option.bind_eq_some_iff.mp hrun
          cases bodyResult with
          | error fault =>
            simp only [Outcome.andThen, Option.some.injEq, Prod.mk.injEq] at hrest
            obtain ⟨-, rfl⟩ := hrest
            exact ih hwithin hbody
          | ok => exact ih (ih hwithin hrest) hbody

/-- **Runs in lockstep.**  They end in the same way at the same depth, unless the first one leaves the
range or fails in a way that is its own. -/
theorem run (h : Lockstep Related Within Shared) {depth : Nat} {program : Program}
    {result : Except Fault Unit} (hrelated : Related machine twin) (hwithin : Within after)
    (hshared : ∀ fault, result = .error fault → Shared fault)
    (hrun : Machine.run depth program machine = some (result, after)) :
    ∃ after', Machine.run depth program twin = some (result, after') ∧ Related after after' := by
  induction depth generalizing program machine twin result after with
  | zero => simp [Machine.run] at hrun
  | succ depth ih =>
    cases program with
    | nil =>
      simp only [Machine.run, Option.some.injEq, Prod.mk.injEq] at hrun
      obtain ⟨rfl, rfl⟩ := hrun
      exact ⟨twin, rfl, hrelated⟩
    | cons instr more =>
      rcases hperform : machine.perform instr with ⟨fault | next, midway⟩
      · rw [Machine.run_of_error hperform, Option.some.injEq, Prod.mk.injEq] at hrun
        obtain ⟨rfl, rfl⟩ := hrun
        obtain ⟨after', hperform', hrelated'⟩ :=
          h.error _ _ _ _ _ hrelated hwithin (hshared fault rfl) hperform
        exact ⟨after', Machine.run_of_error hperform' depth, hrelated'⟩
      · cases next with
        | advance =>
          rw [Machine.run_of_advance hperform] at hrun
          obtain ⟨midway', hperform', hrelated'⟩ :=
            h.ok _ _ _ _ _ hrelated (h.within_of_run hwithin hrun) hperform
          rw [Machine.run_of_advance hperform']
          exact ih hrelated' hwithin hshared hrun
        | enter body =>
          rw [Machine.run_of_enter hperform] at hrun
          obtain ⟨⟨bodyResult, left⟩, hbody, hrest⟩ := Option.bind_eq_some_iff.mp hrun
          cases bodyResult with
          | error fault =>
            simp only [Outcome.andThen, Option.some.injEq, Prod.mk.injEq] at hrest
            obtain ⟨rfl, rfl⟩ := hrest
            obtain ⟨midway', hperform', hrelated'⟩ :=
              h.ok _ _ _ _ _ hrelated (h.within_of_run hwithin hbody) hperform
            obtain ⟨left', hbody', hleft⟩ := ih hrelated' hwithin hshared hbody
            rw [Machine.run_of_enter hperform', hbody']
            exact ⟨left', rfl, hleft⟩
          | ok =>
            have hagain : Within left := h.within_of_run hwithin hrest
            obtain ⟨midway', hperform', hrelated'⟩ :=
              h.ok _ _ _ _ _ hrelated (h.within_of_run hagain hbody) hperform
            obtain ⟨left', hbody', hleft⟩ := ih hrelated' hagain (by simp) hbody
            obtain ⟨after', hrest', hafter⟩ := ih hleft hwithin hshared hrest
            rw [Machine.run_of_enter hperform', hbody']
            exact ⟨after', hrest', hafter⟩

lemma within_of_step (h : Lockstep Related Within Shared) {stepper later : Stepper}
    {result : Except StepError StepReport} (hwithin : Within later.machine)
    (hstep : stepper.step = (result, later)) : Within stepper.machine := by
  obtain hsame | ⟨instr, hperform⟩ := Stepper.machine_of_step hstep
  · exact hsame ▸ hwithin
  · exact h.within _ instr (hperform ▸ hwithin)

/-- One step that does not fail. -/
lemma step (h : Lockstep Related Within Shared) {stepper later : Stepper} {report : StepReport}
    (hrelated : Related stepper.machine twin) (hwithin : Within later.machine)
    (hstep : stepper.step = (.ok report, later)) :
    ∃ after', ({ stepper with machine := twin } : Stepper).step =
        (.ok report, { later with machine := after' }) ∧ Related later.machine after' := by
  rcases stepper with ⟨program, machine, _ | path, steps⟩
  · simp only [Stepper.step, Prod.mk.injEq, Except.ok.injEq] at hstep
    obtain ⟨rfl, rfl⟩ := hstep
    exact ⟨twin, rfl, hrelated⟩
  · simp only [Stepper.step] at hstep ⊢
    rcases hinstr : Program.instrAt program path with e | instr
    · simp [hinstr] at hstep
    · rcases hperform : machine.perform instr with ⟨fault | next, after⟩
      · simp [hinstr, hperform] at hstep
      · simp only [hinstr, hperform] at hstep
        cases next with
        | enter body =>
          cases body with
          | nil | cons =>
            simp only [Prod.mk.injEq, Except.ok.injEq] at hstep
            obtain ⟨rfl, rfl⟩ := hstep
            obtain ⟨after', hperform', hafter⟩ := h.ok _ _ _ _ _ hrelated hwithin hperform
            simp only [hperform']
            exact ⟨after', rfl, hafter⟩
        | advance =>
          rcases hnext : Stepper.following program path with e | place
          · simp [hnext] at hstep
          · simp only [hnext, Prod.mk.injEq, Except.ok.injEq] at hstep
            obtain ⟨rfl, rfl⟩ := hstep
            obtain ⟨after', hperform', hafter⟩ := h.ok _ _ _ _ _ hrelated hwithin hperform
            simp only [hperform']
            exact ⟨after', rfl, hafter⟩

lemma within_of_makes (h : Lockstep Related Within Shared) {stepper later : Stepper} {count : Nat}
    (hwithin : Within later.machine) (hmakes : stepper.Makes count later) :
    Within stepper.machine := by
  induction count generalizing stepper with
  | zero =>
    obtain rfl := (Stepper.makes_zero stepper).unique hmakes
    exact hwithin
  | succ count ih =>
    obtain ⟨report, mid, -, hstep, hmid⟩ := Stepper.makes_succ_iff.mp hmakes
    exact h.within_of_step (ih hmid) hstep

/-- **Steps in lockstep.**  They lead to the same place, with related machines. -/
theorem makes (h : Lockstep Related Within Shared) {stepper later : Stepper} {count : Nat}
    (hrelated : Related stepper.machine twin) (hwithin : Within later.machine)
    (hmakes : stepper.Makes count later) :
    ∃ after', ({ stepper with machine := twin } : Stepper).Makes count
        { later with machine := after' } ∧ Related later.machine after' := by
  induction count generalizing stepper twin with
  | zero =>
    obtain rfl := (Stepper.makes_zero stepper).unique hmakes
    exact ⟨twin, Stepper.makes_zero _, hrelated⟩
  | succ count ih =>
    obtain ⟨report, mid, hpath, hstep, hmid⟩ := Stepper.makes_succ_iff.mp hmakes
    obtain ⟨midway, hstep', hmidway⟩ := h.step hrelated (h.within_of_makes hwithin hmid) hstep
    obtain ⟨after', hmakes', hafter⟩ := ih hmidway hmid
    exact ⟨after', Stepper.makes_succ_iff.mpr ⟨report, _, hpath, hstep', hmakes'⟩, hafter⟩

end Machine.Lockstep

/-- What every instruction preserves, whether it fails or not, a run preserves: a machine goes in
lockstep with itself. -/
lemma Machine.run_preserves {Inv : Machine → Prop} {machine after : Machine} {depth : Nat}
    {program : Program} {result : Except Fault Unit}
    (hinv : ∀ machine instr, Inv machine → Inv (machine.perform instr).2) (h : Inv machine)
    (hrun : Machine.run depth program machine = some (result, after)) : Inv after := by
  have hlockstep : Lockstep (fun machine twin => twin = machine ∧ Inv machine) (fun _ => True)
      (fun _ => True) :=
    { within := fun _ _ _ => trivial
      ok := by
        rintro _ twin instr next after ⟨rfl, hinside⟩ - hperform
        have hafter := hinv twin instr hinside
        rw [hperform] at hafter
        exact ⟨after, hperform, rfl, hafter⟩
      error := by
        rintro _ twin instr fault after ⟨rfl, hinside⟩ - - hperform
        have hafter := hinv twin instr hinside
        rw [hperform] at hafter
        exact ⟨after, hperform, rfl, hafter⟩ }
  obtain ⟨-, -, -, hafter⟩ := hlockstep.run ⟨rfl, h⟩ trivial (fun _ _ => trivial) hrun
  exact hafter

/-! ## Instructions on views -/

/-- Performs an instruction on a view. -/
def View.perform (policy : Policy) (view : View) : Instr → Except Fault (Next × View)
  | .act action => (view.act policy action).map (Prod.mk .advance)
  | .loop body =>
    (view.access policy).map fun cell => (if cell = 0 then .advance else .enter body, view)

namespace Machine

variable {machine : Machine} {policy : Policy} {view later : View} {instr : Instr}

/-- A machine does what its view does. -/
lemma Shows.does {next : Next} (h : machine.Shows policy view)
    (hdoes : view.perform policy instr = .ok (next, later)) :
    ∃ after, machine.perform instr = (.ok next, after) ∧ after.Shows policy later := by
  cases instr with
  | act action =>
    rcases hact : view.act policy action with fault | acted
    · simp [View.perform, hact, Except.map] at hdoes
    · simp only [View.perform, hact, Except.map, Except.ok.injEq, Prod.mk.injEq] at hdoes
      obtain ⟨rfl, rfl⟩ := hdoes
      exact h.perform_ok hact
  | loop body =>
    rcases haccess : view.access policy with fault | cell
    · simp [View.perform, haccess, Except.map] at hdoes
    · simp only [View.perform, haccess, Except.map, Except.ok.injEq, Prod.mk.injEq] at hdoes
      obtain ⟨rfl, rfl⟩ := hdoes
      exact h.loop_ok haccess body

/-- A machine fails as its view does, and goes on showing it. -/
lemma Shows.fails {fault : Fault} (h : machine.Shows policy view)
    (hfails : view.perform policy instr = .error fault) :
    ∃ after, machine.perform instr = (.error fault, after) ∧ after.Shows policy view := by
  cases instr with
  | act action =>
    rcases hact : view.act policy action with cause | acted
    · simp only [View.perform, hact, Except.map, Except.error.injEq] at hfails
      subst hfails
      exact h.perform_error hact
    · simp [View.perform, hact, Except.map] at hfails
  | loop body =>
    rcases haccess : view.access policy with cause | cell
    · simp only [View.perform, haccess, Except.map, Except.error.injEq] at hfails
      subst hfails
      exact h.loop_error haccess body
    · simp [View.perform, haccess, Except.map] at hfails

/-- The machines show related views. -/
def Twins (policy other : Policy) (Related : View → View → Prop) (machine twin : Machine) : Prop :=
  ∃ view view', machine.Shows policy view ∧ twin.Shows other view' ∧ Related view view'

end Machine

namespace View

/-- An instruction does the same on related views, and leaves related views.  Of the failures on the
first side, those that are `Shared` occur on the second as well. -/
structure Lockstep (policy other : Policy) (Related : View → View → Prop) (Shared : Fault → Prop) :
    Prop where
  ok : ∀ view twin instr next later, Related view twin →
    view.perform policy instr = .ok (next, later) →
      ∃ later', twin.perform other instr = .ok (next, later') ∧ Related later later'
  error : ∀ view twin instr fault, Related view twin → Shared fault →
    view.perform policy instr = .error fault → twin.perform other instr = .error fault

end View

namespace View.Lockstep

variable {policy other : Policy} {Related : View → View → Prop} {Shared : Fault → Prop}
  {machine twin after : Machine}

lemma perform_ok (h : Lockstep policy other Related Shared) {instr : Instr} {next : Next}
    (htwins : machine.Twins policy other Related twin)
    (hperform : machine.perform instr = (.ok next, after)) :
    ∃ after', twin.perform instr = (.ok next, after') ∧
      after.Twins policy other Related after' := by
  obtain ⟨view, view', hview, hview', hrelated⟩ := htwins
  rcases hdoes : view.perform policy instr with fault | ⟨next', later⟩
  · obtain ⟨reached, hreached, -⟩ := hview.fails hdoes
    simp [hperform] at hreached
  · obtain ⟨reached, hreached, hlater⟩ := hview.does hdoes
    simp only [hperform, Prod.mk.injEq, Except.ok.injEq] at hreached
    obtain ⟨rfl, rfl⟩ := hreached
    obtain ⟨later', hdoes', hrelated'⟩ := h.ok view view' instr next later hrelated hdoes
    obtain ⟨after', hperform', hlater'⟩ := hview'.does hdoes'
    exact ⟨after', hperform', later, later', hlater, hlater', hrelated'⟩

lemma perform_error (h : Lockstep policy other Related Shared) {instr : Instr} {fault : Fault}
    (htwins : machine.Twins policy other Related twin) (hshared : Shared fault)
    (hperform : machine.perform instr = (.error fault, after)) :
    ∃ after', twin.perform instr = (.error fault, after') ∧
      after.Twins policy other Related after' := by
  obtain ⟨view, view', hview, hview', hrelated⟩ := htwins
  rcases hfails : view.perform policy instr with cause | ⟨next, later⟩
  · obtain ⟨reached, hreached, hsame⟩ := hview.fails hfails
    simp only [hperform, Prod.mk.injEq, Except.error.injEq] at hreached
    obtain ⟨rfl, rfl⟩ := hreached
    have hfails' := h.error view view' instr fault hrelated hshared hfails
    obtain ⟨after', hperform', hsame'⟩ := hview'.fails hfails'
    exact ⟨after', hperform', view, view', hsame, hsame', hrelated⟩
  · obtain ⟨reached, hreached, -⟩ := hview.does hfails
    simp [hperform] at hreached

/-- Machines that show related views go in lockstep. -/
lemma machines (h : Lockstep policy other Related Shared) :
    Machine.Lockstep (Machine.Twins policy other Related) (fun _ => True) Shared where
  within := fun _ _ _ => trivial
  ok := fun _ _ _ _ _ htwins _ hperform => h.perform_ok htwins hperform
  error := fun _ _ _ _ _ htwins _ hshared hperform => h.perform_error htwins hshared hperform

theorem run (h : Lockstep policy other Related Shared) {depth : Nat} {program : Program}
    {result : Except Fault Unit} (htwins : machine.Twins policy other Related twin)
    (hshared : ∀ fault, result = .error fault → Shared fault)
    (hrun : Machine.run depth program machine = some (result, after)) :
    ∃ after', Machine.run depth program twin = some (result, after') ∧
      after.Twins policy other Related after' :=
  h.machines.run htwins trivial hshared hrun

theorem makes (h : Lockstep policy other Related Shared) {stepper later : Stepper} {count : Nat}
    (htwins : stepper.machine.Twins policy other Related twin) (hmakes : stepper.Makes count later) :
    ∃ after', ({ stepper with machine := twin } : Stepper).Makes count
        { later with machine := after' } ∧
      later.machine.Twins policy other Related after' :=
  h.machines.makes htwins trivial hmakes

end View.Lockstep

end TapeLang
