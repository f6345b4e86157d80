import Mathlib.Tactic.Common
import TapeLang.Program.Path

/-!
# The path to the next instruction

`Program.nextSibling` counts on from the last number of a path and never looks up the instruction
that it selects; `Program.instrAt` looks it up and knows nothing of the one beside it.  Each follows
the numbers before the last in a recursion of its own.  This file shows that the two agree.

* `Program.Descends`: every number selects a loop, and the path ends up inside the last of them.
* `Program.Strays`: some number is the first that selects no loop, and why.
* `Program.descends_or_strays`: without negative numbers there is no third way.
* **`Program.nextSibling_agrees`**: the next path is found exactly if an instruction stands there, and
  a path that leads nowhere is refused as it is when it is looked up.
-/

namespace TapeLang.Program

/-! ## The numbers before the last -/

/-- Every number of the path selects a loop, and `inner` is the body of the innermost one. -/
inductive Descends : Program → Path → Program → Prop
  | here (program : Program) : Descends program [] program
  | into {program body inner : Program} {index : Nat} {front : Path}
      (hloop : program[index]? = some (.loop body)) (deeper : Descends body front inner) :
      Descends program ((index : Int) :: front) inner

/-- Some number of the path selects no loop, and the first that does not has the fault `e`. -/
inductive Strays : Program → Path → PathError → Prop
  | outOfRange {program : Program} {index : Nat} {front : Path} (hlength : program.length ≤ index) :
      Strays program ((index : Int) :: front) .outOfRange
  | notALoop {program : Program} {index : Nat} {front : Path} {action : Action}
      (hact : program[index]? = some (.act action)) :
      Strays program ((index : Int) :: front) .notALoop
  | into {program body : Program} {index : Nat} {front : Path} {e : PathError}
      (hloop : program[index]? = some (.loop body)) (deeper : Strays body front e) :
      Strays program ((index : Int) :: front) e

lemma descends_or_strays (program : Program) (front : Path) (hfront : ∀ index ∈ front, 0 ≤ index) :
    (∃ inner, Descends program front inner) ∨ ∃ e, Strays program front e := by
  induction front generalizing program with
  | nil => exact .inl ⟨program, .here program⟩
  | cons index front ih =>
    obtain ⟨hindex, hdeeper⟩ := List.forall_mem_cons.mp hfront
    obtain ⟨index, rfl⟩ := Int.eq_ofNat_of_zero_le hindex
    rcases hselected : program[index]? with _ | ⟨action⟩ | ⟨body⟩
    · exact .inr ⟨_, .outOfRange (List.getElem?_eq_none_iff.mp hselected)⟩
    · exact .inr ⟨_, .notALoop hselected⟩
    · rcases ih body hdeeper with ⟨inner, hinner⟩ | ⟨e, he⟩
      · exact .inl ⟨inner, .into hselected hinner⟩
      · exact .inr ⟨e, .into hselected he⟩

/-! ## One number more in front

Both recursions look at what the first number selects.  Only `nextSibling` would let it be negative. -/

variable {program body inner : Program} {front path : Path} {index : Nat} {e : PathError}

lemma instrAt_cons (hpath : path ≠ []) :
    instrAt program ((index : Int) :: path) =
      match program[index]? with
      | none => .error .outOfRange
      | some (.loop body) => instrAt body path
      | some (.act _) => .error .notALoop := by
  obtain ⟨next, deeper, rfl⟩ := List.exists_cons_of_ne_nil hpath
  rw [instrAt, if_neg (Int.not_lt.mpr (Int.natCast_nonneg index)), Int.toNat_natCast]
  rcases program[index]? with _ | ⟨action⟩ | ⟨body⟩ <;> rfl

lemma nextSibling_cons (hpath : path ≠ []) :
    nextSibling program ((index : Int) :: path) =
      match program[index]? with
      | none => .error .outOfRange
      | some (.loop body) => (nextSibling body path).map (Option.map ((index : Int) :: ·))
      | some (.act _) => .error .notALoop := by
  have hselected : fromEnd? program (index : Int) = program[index]? := by
    rw [fromEnd?, if_pos (Int.natCast_nonneg index), Int.toNat_natCast]
  rw [nextSibling, hselected]
  · rcases program[index]? with _ | ⟨action⟩ | ⟨body⟩
    · rfl
    · rfl
    · simp only
      rcases nextSibling body path <;> rfl
  · exact hpath

/-! ## All the numbers in front -/

lemma concat_ne_nil (front : Path) (last : Int) : front ++ [last] ≠ [] :=
  List.append_ne_nil_of_right_ne_nil front (List.cons_ne_nil last [])

lemma Descends.instrAt (h : Descends program front inner) (last : Int) :
    Program.instrAt program (front ++ [last]) = Program.instrAt inner [last] := by
  induction h with
  | here program => rfl
  | into hloop deeper ih => rw [List.cons_append, instrAt_cons (concat_ne_nil _ _), hloop, ← ih]

lemma Descends.nextSibling (h : Descends program front inner) (last : Int) :
    Program.nextSibling program (front ++ [last]) =
      .ok (if last + 1 < (inner.length : Int) then some (front ++ [last + 1]) else none) := by
  induction h with
  | here program => rfl
  | into hloop deeper ih =>
    rw [List.cons_append, nextSibling_cons (concat_ne_nil _ _), hloop]
    simp only [ih, Except.map]
    split_ifs <;> rfl

lemma Strays.instrAt (h : Strays program front e) (last : Int) :
    Program.instrAt program (front ++ [last]) = .error e := by
  induction h with
  | outOfRange hlength =>
    rw [List.cons_append, instrAt_cons (concat_ne_nil _ _), List.getElem?_eq_none hlength]
  | notALoop hact => rw [List.cons_append, instrAt_cons (concat_ne_nil _ _), hact]
  | into hloop deeper ih => rw [List.cons_append, instrAt_cons (concat_ne_nil _ _), hloop, ← ih]

lemma Strays.nextSibling (h : Strays program front e) (last : Int) :
    Program.nextSibling program (front ++ [last]) = .error e := by
  induction h with
  | outOfRange hlength =>
    rw [List.cons_append, nextSibling_cons (concat_ne_nil _ _), List.getElem?_eq_none hlength]
  | notALoop hact => rw [List.cons_append, nextSibling_cons (concat_ne_nil _ _), hact]
  | into hloop deeper ih =>
    rw [List.cons_append, nextSibling_cons (concat_ne_nil _ _), hloop]
    simp only [ih, Except.map]

/-! ## Agreement -/

lemma exists_instrAt_single_iff (program : Program) {last : Int} (hlast : 0 ≤ last) :
    (∃ instr, instrAt program [last] = .ok instr) ↔ last < (program.length : Int) := by
  obtain ⟨last, rfl⟩ := Int.eq_ofNat_of_zero_le hlast
  rw [instrAt, if_neg (Int.not_lt.mpr hlast), Int.toNat_natCast]
  rcases hselected : program[last]? with _ | instr
  · have hlength := List.getElem?_eq_none_iff.mp hselected
    simp only [reduceCtorEq, exists_false, false_iff]
    omega
  · obtain ⟨hlength, -⟩ := List.getElem?_eq_some_iff.mp hselected
    simp only [Except.ok.injEq, exists_eq', true_iff]
    omega

lemma nextSibling_eq_some_iff (hfront : ∀ index ∈ front, 0 ≤ index) {last : Int} (hlast : 0 ≤ last)
    (beside : Path) :
    nextSibling program (front ++ [last]) = .ok (some beside) ↔
      beside = front ++ [last + 1] ∧ ∃ instr, instrAt program beside = .ok instr := by
  rcases descends_or_strays program front hfront with ⟨inner, hinner⟩ | ⟨e, he⟩
  · have hthere : (∃ instr, instrAt program (front ++ [last + 1]) = .ok instr) ↔
        last + 1 < (inner.length : Int) := by
      rw [hinner.instrAt, exists_instrAt_single_iff inner (by omega)]
    rw [hinner.nextSibling, Except.ok.injEq]
    constructor
    · intro h
      split_ifs at h with hlength
      obtain rfl := Option.some.inj h
      exact ⟨rfl, hthere.mpr hlength⟩
    · rintro ⟨rfl, hinstr⟩
      rw [if_pos (hthere.mp hinstr)]
  · -- a path that strays does so whatever its last number is
    rw [he.nextSibling]
    constructor
    · intro h
      exact absurd h (by simp)
    · rintro ⟨rfl, instr, hinstr⟩
      rw [he.instrAt] at hinstr
      exact absurd hinstr (by simp)

lemma nextSibling_eq_none_iff (hfront : ∀ index ∈ front, 0 ≤ index) (last : Int) :
    nextSibling program (front ++ [last]) = .ok none ↔
      ∃ inner, Descends program front inner ∧ (inner.length : Int) ≤ last + 1 := by
  constructor
  · intro h
    rcases descends_or_strays program front hfront with ⟨inner, hinner⟩ | ⟨e, he⟩
    · rw [hinner.nextSibling, Except.ok.injEq] at h
      split_ifs at h with hlength
      exact ⟨inner, hinner, Int.not_lt.mp hlength⟩
    · rw [he.nextSibling] at h
      exact absurd h (by simp)
  · rintro ⟨inner, hinner, hlength⟩
    rw [hinner.nextSibling, if_neg (Int.not_lt.mpr hlength)]

lemma nextSibling_eq_error_iff (hfront : ∀ index ∈ front, 0 ≤ index) (last : Int) :
    nextSibling program (front ++ [last]) = .error e ↔ Strays program front e := by
  constructor
  · intro h
    rcases descends_or_strays program front hfront with ⟨inner, hinner⟩ | ⟨fault, hfault⟩
    · rw [hinner.nextSibling] at h
      exact absurd h (by simp)
    · rw [hfault.nextSibling, Except.error.injEq] at h
      rwa [← h]
  · intro h
    exact h.nextSibling last

/-- **Going on and looking up agree.**  Take a path without negative numbers that ends in `last`, and
count its last number up by one.

* The path beside it is what `nextSibling` gives exactly if it leads to an instruction, and
  `nextSibling` never gives another.
* There is no next path exactly if all numbers before the last select loops and the number after
  `last` is past the end of the innermost body.
* In every other case a number before the last is out of range or selects no loop.  Then going on from
  the path is refused with the same error, and so with the same wording, as looking it up.

A path is handed back in the first case only; in the others it stays what it was. -/
theorem nextSibling_agrees (program : Program) (front : Path) (last : Int)
    (hfront : ∀ index ∈ front, 0 ≤ index) (hlast : 0 ≤ last) :
    (∀ beside, nextSibling program (front ++ [last]) = .ok (some beside) ↔
      beside = front ++ [last + 1] ∧ ∃ instr, instrAt program beside = .ok instr) ∧
    (nextSibling program (front ++ [last]) = .ok none ↔
      ∃ inner, Descends program front inner ∧ (inner.length : Int) ≤ last + 1) ∧
    (∀ e, nextSibling program (front ++ [last]) = .error e ↔ Strays program front e) ∧
    ∀ e, Strays program front e → instrAt program (front ++ [last]) = .error e := by
  refine ⟨fun beside => ?_, ?_, fun e => ?_, fun e he => ?_⟩
  · exact nextSibling_eq_some_iff hfront hlast beside
  · exact nextSibling_eq_none_iff hfront last
  · exact nextSibling_eq_error_iff hfront last
  · exact he.instrAt last

/-- In a loop of two instructions there is a next path from the first one and none from the second.  A
path through an instruction that is no loop is refused, and so is one past the end of the program. -/
theorem two_in_a_loop_agree :
    nextSibling [.act .input, .loop [.act .output, .act .input]] [1, 0] = .ok (some [1, 1]) ∧
    nextSibling [.act .input, .loop [.act .output, .act .input]] [1, 1] = .ok none ∧
    (nextSibling [.act .input, .loop []] [0, 4] = .error .notALoop ∧
      instrAt [.act .input, .loop []] [0, 4] = .error .notALoop) ∧
    nextSibling [.act .input, .loop []] [2, 0] = .error .outOfRange ∧
      instrAt [.act .input, .loop []] [2, 0] = .error .outOfRange := by
  have hinto : Descends [.act .input, .loop [.act .output, .act .input]] [1]
      [.act .output, .act .input] := .into rfl (.here _)
  have hact : Strays [.act .input, .loop []] [0] .notALoop := .notALoop rfl
  have hpast : Strays [.act .input, .loop []] [2] .outOfRange := .outOfRange (Nat.le_refl 2)
  obtain ⟨hnext, -⟩ := nextSibling_agrees [.act .input, .loop [.act .output, .act .input]] [1] 0
    (by decide) (by decide)
  obtain ⟨-, hnone, -⟩ := nextSibling_agrees [.act .input, .loop [.act .output, .act .input]] [1] 1
    (by decide) (by decide)
  obtain ⟨-, -, hactError, hactThere⟩ :=
    nextSibling_agrees [.act .input, .loop []] [0] 4 (by decide) (by decide)
  obtain ⟨-, -, hpastError, hpastThere⟩ :=
    nextSibling_agrees [.act .input, .loop []] [2] 0 (by decide) (by decide)
  refine ⟨(hnext [1, 1]).mpr ⟨rfl, _, rfl⟩, hnone.mpr ⟨_, hinto, by decide⟩, ?_, ?_⟩
  · exact ⟨(hactError _).mpr hact, hactThere _ hact⟩
  · exact ⟨(hpastError _).mpr hpast, hpastThere _ hpast⟩

end TapeLang.Program
