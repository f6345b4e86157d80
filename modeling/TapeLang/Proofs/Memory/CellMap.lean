import Mathlib.Data.Int.Range
import Mathlib.Logic.Function.Basic
import Mathlib.Tactic.Common
import TapeLang.Machine

/-!
# A tape is a total map

`Memory` stores a tape in two buffers that grow while it is read and written.  Whoever uses a tape
sees nothing of that: it behaves as a map from the integers to bytes, blank at first, in which the
policy leaves some addresses out.

* `CellMap` is the map, and `CellMap.call` says how it answers each call.
* `Memory.Represents` says that the buffers hold a map, and `Memory.Stores` that a cell is stored.
* `Memory.reserve_of_includes` is what makes the rest go through: making room keeps every cell.
  `Memory.get_of_includes`, `Memory.set_of_includes` and `Memory.add_of_includes` follow from it.
* **`Memory.answers_eq_cellMap`**: every sequence of calls gets the answers of the map.
-/

namespace TapeLang

/-! ## The map -/

/-- The contents of every cell of a tape, stored or not. -/
abbrev CellMap := Int → UInt8

def CellMap.blank : CellMap := fun _ => 0

/-- The addresses that a policy leaves out. -/
def Policy.Excludes : Policy → Int → Prop
  | .fixed size, address => address < 0 ∨ (size : Int) ≤ address
  | .rightUnbounded, address => address < 0
  | .bothUnbounded, _ => False

instance Policy.decidableExcludes :
    (policy : Policy) → (address : Int) → Decidable (policy.Excludes address)
  | .fixed size, address => inferInstanceAs (Decidable (address < 0 ∨ (size : Int) ≤ address))
  | .rightUnbounded, address => inferInstanceAs (Decidable (address < 0))
  | .bothUnbounded, _ => inferInstanceAs (Decidable False)

/-- What can be asked of a tape. -/
inductive TapeCall where
  | get (address : Int)
  | set (address value : Int)
  | add (address value : Int)
  | peek (address : Int)
  | inBounds (address : Int)
  | window (start stop : Int)
deriving DecidableEq, Repr

def TapeCall.looks : TapeCall → Bool
  | .peek _ | .inBounds _ | .window _ _ => true
  | .get _ | .set _ _ | .add _ _ => false

inductive TapeAnswer where
  | refused (e : OutOfBounds)
  | done
  | cell (contents : UInt8)
  | verdict (allowed : Bool)
  | cells (contents : List UInt8)
deriving DecidableEq, Repr

/-- Makes one call after the other and collects the answers. -/
def answerAll {σ : Type} (call : σ → TapeCall → TapeAnswer × σ) :
    σ → List TapeCall → List TapeAnswer × σ
  | state, [] => ([], state)
  | state, first :: more =>
    let (answer, state) := call state first
    let (answers, state) := answerAll call state more
    (answer :: answers, state)

/-- How a map answers.  An excluded address is refused, and the map stays as it is. -/
def CellMap.call (policy : Policy) (cells : CellMap) : TapeCall → TapeAnswer × CellMap
  | .get address =>
    if policy.Excludes address then (.refused ⟨address⟩, cells) else (.cell (cells address), cells)
  | .set address value =>
    if policy.Excludes address then (.refused ⟨address⟩, cells)
    else (.done, Function.update cells address (cellOf value))
  | .add address value =>
    if policy.Excludes address then (.refused ⟨address⟩, cells)
    else (.done, Function.update cells address (cellOf ((cells address).toNat + value)))
  | .peek address => (.cell (cells address), cells)
  | .inBounds address => (.verdict (decide ¬ policy.Excludes address), cells)
  | .window start stop => (.cells ((Int.range start stop).map cells), cells)

def Memory.call (memory : Memory) : TapeCall → TapeAnswer × Memory
  | .get address =>
    match memory.get address with
    | (.ok contents, memory) => (.cell contents, memory)
    | (.error e, memory) => (.refused e, memory)
  | .set address value =>
    match memory.set address value with
    | (.ok (), memory) => (.done, memory)
    | (.error e, memory) => (.refused e, memory)
  | .add address value =>
    match memory.add address value with
    | (.ok (), memory) => (.done, memory)
    | (.error e, memory) => (.refused e, memory)
  | .peek address => (.cell (memory.peek address), memory)
  | .inBounds address => (.verdict (memory.inBounds address), memory)
  | .window start stop => (.cells (memory.window start stop), memory)

/-! ## Arithmetic of cells -/

lemma add_cellOf (cell : UInt8) (value : Int) :
    cell + cellOf value = cellOf (cell.toNat + value) := by
  apply UInt8.toNat_inj.mp
  simp only [cellOf, UInt8.toNat_add, UInt8.toNat_ofNat']
  omega

lemma Policy.allows_iff (policy : Policy) (address : Int) :
    policy.allows address = true ↔ ¬ policy.Excludes address := by
  cases policy with
  | fixed size => simp [Policy.allows, Policy.Excludes]
  | rightUnbounded => simp [Policy.allows, Policy.Excludes]
  | bothUnbounded => simp [Policy.allows, Policy.Excludes]

/-! ## Growing a buffer -/

lemma le_size_grow (cells : Array UInt8) (needed : Nat) : needed ≤ (grow cells needed).size := by
  simp only [grow, grownCapacity, Array.size_append, Array.size_replicate]
  omega

/-- Growing moves no cell: what is new reads as zero, as it did before it was there. -/
lemma getD_grow (cells : Array UInt8) (needed index : Nat) :
    (grow cells needed).getD index 0 = cells.getD index 0 := by
  simp only [Array.getD_eq_getD_getElem?, grow]
  by_cases h : index < cells.size
  · rw [Array.getElem?_append_left h]
  · rw [Array.getElem?_append_right (by omega), Array.getElem?_eq_none (Nat.le_of_not_lt h)]
    simp only [Array.getElem?_replicate]
    split <;> rfl

lemma getD_setIfInBounds (cells : Array UInt8) {index : Nat} (h : index < cells.size) (cell : UInt8)
    (other : Nat) :
    (cells.setIfInBounds index cell).getD other 0 = if other = index then cell else cells.getD other 0 := by
  simp only [Array.getD_eq_getD_getElem?]
  split_ifs with heq
  · subst heq
    rw [Array.getElem?_setIfInBounds_self_of_lt h]
    rfl
  · rw [Array.getElem?_setIfInBounds_ne (Ne.symm heq)]

/-! ## The tape that a memory represents -/

namespace Memory

/-- The memory holds the tape `cells` under a policy.  A tape of fixed size is stored whole, which is
why `reserve` may take the end of its buffer for the end of the tape. -/
structure Represents (memory : Memory) (policy : Policy) (cells : CellMap) : Prop where
  policy_eq : memory.policy = policy
  peek_eq : memory.peek = cells
  right_size : ∀ size, policy = .fixed size → memory.right.size = size

/-- Whether an address has an index in its buffer. -/
def Stores (memory : Memory) : Int → Prop
  | .ofNat index => index < memory.right.size
  | .negSucc index => index < memory.left.size

variable {memory : Memory} {policy : Policy} {cells : CellMap} {address : Int}

lemma blank_represents (policy : Policy) : (blank policy).Represents policy CellMap.blank where
  policy_eq := by cases policy <;> rfl
  peek_eq := by
    funext address
    cases policy <;> cases address <;>
      simp [blank, peek, CellMap.blank, Array.getD_eq_getD_getElem?, Array.getElem?_replicate]
    split <;> rfl
  right_size := by
    rintro size rfl
    simp [blank]

/-- A refused address leaves the memory as it was. -/
lemma reserve_of_excludes (h : memory.Represents policy cells) (hout : policy.Excludes address) :
    memory.reserve address = (.error ⟨address⟩, memory) := by
  have hpolicy := h.policy_eq
  cases policy with
  | fixed size =>
    have hsize := h.right_size size rfl
    cases address with
    | ofNat index =>
      simp only [Policy.Excludes, Int.ofNat_eq_natCast] at hout
      simp only [reserve, hpolicy]
      rw [if_neg (by omega)]
    | negSucc index => simp only [reserve, hpolicy]
  | rightUnbounded =>
    cases address with
    | ofNat index =>
      simp only [Policy.Excludes, Int.ofNat_eq_natCast] at hout
      omega
    | negSucc index => simp only [reserve, hpolicy]
  | bothUnbounded => exact hout.elim

lemma peek_growRight (memory : Memory) (needed : Nat) :
    ({ memory with right := grow memory.right needed } : Memory).peek = memory.peek := by
  funext address
  cases address with
  | ofNat index => exact getD_grow memory.right needed index
  | negSucc index => rfl

lemma peek_growLeft (memory : Memory) (needed : Nat) :
    ({ memory with left := grow memory.left needed } : Memory).peek = memory.peek := by
  funext address
  cases address with
  | ofNat index => rfl
  | negSucc index => exact getD_grow memory.left needed index

/-- Room to the right keeps every cell, on a tape that has no last one. -/
lemma Represents.growRight (h : memory.Represents policy cells)
    (hfree : ∀ size, policy ≠ .fixed size) (needed : Nat) :
    ({ memory with right := grow memory.right needed } : Memory).Represents policy cells where
  policy_eq := h.policy_eq
  peek_eq := (peek_growRight memory needed).trans h.peek_eq
  right_size := fun size hsize => absurd hsize (hfree size)

lemma Represents.growLeft (h : memory.Represents policy cells) (needed : Nat) :
    ({ memory with left := grow memory.left needed } : Memory).Represents policy cells where
  policy_eq := h.policy_eq
  peek_eq := (peek_growLeft memory needed).trans h.peek_eq
  right_size := h.right_size

/-- **Making room keeps every cell.**  An address that the policy has is stored afterwards, and the
tape is the same. -/
lemma reserve_of_includes (h : memory.Represents policy cells) (hin : ¬ policy.Excludes address) :
    ∃ roomy : Memory, memory.reserve address = (.ok (), roomy) ∧
      roomy.Represents policy cells ∧ roomy.Stores address := by
  have hpolicy := h.policy_eq
  cases address with
  | ofNat index =>
    by_cases hstored : index < memory.right.size
    · exact ⟨memory, by simp only [reserve, if_pos hstored], h, hstored⟩
    · have hfree : ∀ size, policy ≠ .fixed size := by
        rintro size rfl
        have hsize := h.right_size size rfl
        simp only [Policy.Excludes, Int.ofNat_eq_natCast] at hin
        omega
      refine ⟨_, ?_, h.growRight hfree (index + 1), le_size_grow memory.right (index + 1)⟩
      simp only [reserve, if_neg hstored, hpolicy]
  | negSucc index =>
    cases policy with
    | fixed size => exact absurd (Or.inl (Int.negSucc_lt_zero index)) hin
    | rightUnbounded => exact absurd (Int.negSucc_lt_zero index) hin
    | bothUnbounded =>
      by_cases hstored : index < memory.left.size
      · exact ⟨memory, by simp only [reserve, hpolicy, if_pos hstored], h, hstored⟩
      · refine ⟨_, ?_, h.growLeft (index + 1), le_size_grow memory.left (index + 1)⟩
        simp only [reserve, hpolicy, if_neg hstored]

/-- Writing a stored cell changes that cell and no other. -/
lemma Represents.store (h : memory.Represents policy cells) (hstored : memory.Stores address)
    (cell : UInt8) :
    (memory.store address cell).Represents policy (Function.update cells address cell) := by
  rw [← h.peek_eq]
  cases address with
  | ofNat index =>
    refine ⟨h.policy_eq, ?_, fun size hsize => ?_⟩
    · funext other
      cases other with
      | ofNat i =>
        rw [Function.update_apply]
        simp only [Memory.store, peek, getD_setIfInBounds _ hstored, Int.ofNat.injEq]
      | negSucc i => simp [Memory.store, peek]
    · simpa [Memory.store] using h.right_size size hsize
  | negSucc index =>
    refine ⟨h.policy_eq, ?_, h.right_size⟩
    funext other
    cases other with
    | ofNat i => simp [Memory.store, peek]
    | negSucc i =>
      rw [Function.update_apply]
      simp only [Memory.store, peek, getD_setIfInBounds _ hstored, Int.negSucc.injEq]

/-! ## One access -/

lemma get_of_excludes (h : memory.Represents policy cells) (hout : policy.Excludes address) :
    memory.get address = (.error ⟨address⟩, memory) := by
  simp only [get, reserve_of_excludes h hout]

lemma get_of_includes (h : memory.Represents policy cells) (hin : ¬ policy.Excludes address) :
    ∃ after : Memory, memory.get address = (.ok (cells address), after) ∧
      after.Represents policy cells := by
  obtain ⟨roomy, hreserve, hroomy, -⟩ := reserve_of_includes h hin
  exact ⟨roomy, by simp only [get, hreserve, hroomy.peek_eq], hroomy⟩

lemma set_of_excludes (h : memory.Represents policy cells) (hout : policy.Excludes address)
    (value : Int) : memory.set address value = (.error ⟨address⟩, memory) := by
  simp only [set, reserve_of_excludes h hout]

lemma set_of_includes (h : memory.Represents policy cells) (hin : ¬ policy.Excludes address)
    (value : Int) :
    ∃ after : Memory, memory.set address value = (.ok (), after) ∧
      after.Represents policy (Function.update cells address (cellOf value)) := by
  obtain ⟨roomy, hreserve, hroomy, hstored⟩ := reserve_of_includes h hin
  exact ⟨_, by simp only [set, hreserve], hroomy.store hstored (cellOf value)⟩

lemma add_of_excludes (h : memory.Represents policy cells) (hout : policy.Excludes address)
    (value : Int) : memory.add address value = (.error ⟨address⟩, memory) := by
  simp only [add, reserve_of_excludes h hout]

lemma add_of_includes (h : memory.Represents policy cells) (hin : ¬ policy.Excludes address)
    (value : Int) :
    ∃ after : Memory, memory.add address value = (.ok (), after) ∧
      after.Represents policy
        (Function.update cells address (cellOf ((cells address).toNat + value))) := by
  obtain ⟨roomy, hreserve, hroomy, hstored⟩ := reserve_of_includes h hin
  refine ⟨_, ?_, hroomy.store hstored (cellOf ((cells address).toNat + value))⟩
  simp only [add, hreserve, hroomy.peek_eq, add_cellOf]

/-! ## Sequences of calls -/

/-- Looking at a tape costs it nothing. -/
lemma call_of_looks {call : TapeCall} (hlooks : call.looks = true) (memory : Memory) :
    (memory.call call).2 = memory := by
  cases call with
  | get | set | add => simp [TapeCall.looks] at hlooks
  | peek | inBounds | window => rfl

/-- **One call.**  The answer is the map's, and the memory goes on representing the map. -/
lemma Represents.call (h : memory.Represents policy cells) (call : TapeCall) :
    (memory.call call).1 = (CellMap.call policy cells call).1 ∧
      (memory.call call).2.Represents policy (CellMap.call policy cells call).2 := by
  cases call with
  | get address =>
    by_cases hout : policy.Excludes address
    · simp [Memory.call, CellMap.call, get_of_excludes h hout, hout, h]
    · obtain ⟨after, hget, hafter⟩ := get_of_includes h hout
      simp [Memory.call, CellMap.call, hget, hout, hafter]
  | set address value =>
    by_cases hout : policy.Excludes address
    · simp [Memory.call, CellMap.call, set_of_excludes h hout, hout, h]
    · obtain ⟨after, hset, hafter⟩ := set_of_includes h hout value
      simp [Memory.call, CellMap.call, hset, hout, hafter]
  | add address value =>
    by_cases hout : policy.Excludes address
    · simp [Memory.call, CellMap.call, add_of_excludes h hout, hout, h]
    · obtain ⟨after, hadd, hafter⟩ := add_of_includes h hout value
      simp [Memory.call, CellMap.call, hadd, hout, hafter]
  | peek address => exact ⟨by simp only [Memory.call, CellMap.call, h.peek_eq], h⟩
  | inBounds address =>
    refine ⟨?_, h⟩
    simp only [Memory.call, CellMap.call, inBounds, h.policy_eq, TapeAnswer.verdict.injEq]
    exact Bool.eq_iff_iff.mpr (by simp [Policy.allows_iff])
  | window start stop =>
    refine ⟨?_, h⟩
    simp [Memory.call, CellMap.call, window, Int.range, h.peek_eq]

/-- A call that is refused leaves the memory as it was, down to the size of its buffers. -/
lemma call_of_refused (h : memory.Represents policy cells) {call : TapeCall} {e : OutOfBounds}
    (hrefused : (memory.call call).1 = .refused e) : (memory.call call).2 = memory := by
  have hanswer := (h.call call).1
  rw [hrefused] at hanswer
  cases call with
  | get address =>
    by_cases hout : policy.Excludes address
    · simp only [Memory.call, get_of_excludes h hout]
    · simp [CellMap.call, hout] at hanswer
  | set address value =>
    by_cases hout : policy.Excludes address
    · simp only [Memory.call, set_of_excludes h hout]
    · simp [CellMap.call, hout] at hanswer
  | add address value =>
    by_cases hout : policy.Excludes address
    · simp only [Memory.call, add_of_excludes h hout]
    · simp [CellMap.call, hout] at hanswer
  | peek | inBounds | window => rfl

lemma Represents.answerAll (h : memory.Represents policy cells) (calls : List TapeCall) :
    (answerAll Memory.call memory calls).1 = (answerAll (CellMap.call policy) cells calls).1 ∧
      (answerAll Memory.call memory calls).2.Represents policy
        (answerAll (CellMap.call policy) cells calls).2 := by
  induction calls generalizing memory cells with
  | nil => exact ⟨rfl, h⟩
  | cons call more ih =>
    obtain ⟨hanswer, hafter⟩ := h.call call
    obtain ⟨hanswers, hlast⟩ := ih hafter
    refine ⟨?_, hlast⟩
    simp only [TapeLang.answerAll, hanswer, hanswers]

end Memory

/-! ## Cells seen from outside the machine -/

lemma Machine.cell?_of_represents {machine : Machine} {policy : Policy} {cells : CellMap}
    (h : machine.memory.Represents policy cells) (address : Int) :
    machine.cell? address = if policy.Excludes address then none else some (cells address) := by
  simp only [Machine.cell?, Memory.inBounds, h.policy_eq, h.peek_eq, Policy.allows_iff]
  split_ifs <;> rfl

lemma Machine.setCell_of_excludes {machine : Machine} {policy : Policy} {cells : CellMap}
    (h : machine.memory.Represents policy cells) {address : Int} (hout : policy.Excludes address)
    (value : Int) : machine.setCell address value = (false, machine) := by
  have hbounds : machine.memory.inBounds address ≠ true := by
    simpa only [Memory.inBounds, h.policy_eq, ne_eq, Policy.allows_iff, not_not] using hout
  simp only [Machine.setCell, if_neg hbounds]

/-- Changing a cell from outside ignores the result of the write; it may, since a write to an address
that the policy has is never refused. -/
lemma Machine.setCell_of_includes {machine : Machine} {policy : Policy} {cells : CellMap}
    (h : machine.memory.Represents policy cells) {address : Int} (hin : ¬ policy.Excludes address)
    (value : Int) :
    ∃ after : Memory, machine.memory.set address value = (.ok (), after) ∧
      machine.setCell address value = (true, { machine with memory := after }) ∧
      after.Represents policy (Function.update cells address (cellOf value)) := by
  obtain ⟨after, hset, hafter⟩ := Memory.set_of_includes h hin value
  have hbounds : machine.memory.inBounds address = true := by
    simpa only [Memory.inBounds, h.policy_eq, Policy.allows_iff] using hin
  refine ⟨after, hset, ?_, hafter⟩
  simp only [Machine.setCell, if_pos hbounds, hset]

/-- **A tape refines a total map.**  Whatever is asked of a blank tape, in whatever order, the answers
are those of a blank map under the same policy.  In every state that is reached, a refused call and
a call that only looks change nothing, the buffers included; and the cells can be shown and changed
from outside exactly where the policy has them. -/
theorem Memory.answers_eq_cellMap (policy : Policy) (calls : List TapeCall) :
    ∃ (answers : List TapeAnswer) (memory : Memory) (cells : CellMap),
      answerAll Memory.call (Memory.blank policy) calls = (answers, memory) ∧
      answerAll (CellMap.call policy) CellMap.blank calls = (answers, cells) ∧
      (∀ call e, (memory.call call).1 = .refused e → (memory.call call).2 = memory) ∧
      (∀ call, call.looks = true → (memory.call call).2 = memory) ∧
      ∀ (pointer : Int) (feed : Feed) (sink : Sink) (address value : Int),
        let machine : Machine := ⟨pointer, memory, feed, sink⟩
        machine.cell? address = (if policy.Excludes address then none else some (cells address)) ∧
        if policy.Excludes address then machine.setCell address value = (false, machine)
        else
          ∃ after : Memory, memory.set address value = (.ok (), after) ∧
            machine.setCell address value = (true, { machine with memory := after }) ∧
            after.peek = Function.update cells address (cellOf value) := by
  obtain ⟨hanswers, hlast⟩ := (Memory.blank_represents policy).answerAll calls
  refine ⟨_, _, _, rfl, Prod.ext hanswers.symm rfl, ?_, ?_, ?_⟩
  · intro call e hrefused
    exact Memory.call_of_refused hlast hrefused
  · intro call hlooks
    exact Memory.call_of_looks hlooks _
  · intro pointer feed sink address value
    refine ⟨Machine.cell?_of_represents hlast address, ?_⟩
    split_ifs with hout
    · exact Machine.setCell_of_excludes hlast hout value
    · have hmachine : (Machine.mk pointer _ feed sink).memory.Represents policy _ := hlast
      obtain ⟨after, hset, hchanged, hafter⟩ := Machine.setCell_of_includes hmachine hout value
      exact ⟨after, hset, hchanged, hafter.peek_eq⟩

end TapeLang
