import TapeLang.Proofs.Memory.CellMap

/-!
# How large the buffers of a tape get

A buffer grows when an index past its end is touched, to the largest of three numbers: what is
needed, twice what it was, and a least capacity.  So its size depends on the whole order of accesses.
What does not depend on it is how the size compares with the largest index touched so far.

* `Side`, `Memory.buffer`, `Policy.Grows`: the two buffers, and which of them may grow.
* `touched`: the indices of a side that a sequence of calls has made room for.
* `roomFor`: the size that one touch leaves; `Memory.size_call` says that this is all that a call does
  to the size of a buffer.
* `Fits`: the bounds, with `Fits.touch` for one more touch and `Memory.fits_touched` for all of them.
* **`Memory.capacity_bounded`**: both buffers after every sequence of calls.
-/

namespace TapeLang

/-! ## Sides of a tape -/

/-- The two directions from the origin of a tape. -/
inductive Side where
  | right
  | left
deriving DecidableEq, Repr

def Memory.buffer (memory : Memory) : Side → Array UInt8
  | .right => memory.right
  | .left => memory.left

/-- The buffer of the side is extended on demand. -/
def Policy.Grows : Policy → Side → Prop
  | .fixed _, _ => False
  | .rightUnbounded, side => side = .right
  | .bothUnbounded, _ => True

/-- The place of an address in the buffer of a side, if it lies on that side. -/
def Side.index? : Side → Int → Option Nat
  | .right, address => if 0 ≤ address then some address.toNat else none
  | .left, address => if address < 0 then some (-(address + 1)).toNat else none

/-- The address that a call reads or writes.  Calls that only look have none. -/
def TapeCall.address? : TapeCall → Option Int
  | .get address | .set address _ | .add address _ => some address
  | .peek _ | .inBounds _ | .window _ _ => none

def TapeCall.index? (side : Side) (call : TapeCall) : Option Nat :=
  call.address?.bind side.index?

/-- The indices of a side that calls have read or written, in the order of the calls. -/
def touched (side : Side) (calls : List TapeCall) : List Nat :=
  calls.filterMap (TapeCall.index? side)

namespace Side

@[simp] lemma index?_right_natCast (index : Nat) : right.index? index = some index := by
  simp [index?]

@[simp] lemma index?_right_negSucc (index : Nat) : right.index? (.negSucc index) = none := by
  simp [index?, Int.negSucc_not_nonneg]

@[simp] lemma index?_left_natCast (index : Nat) : left.index? index = none := by
  simp [index?]

@[simp] lemma index?_left_negSucc (index : Nat) : left.index? (.negSucc index) = some index := by
  simp [index?, Int.negSucc_lt_zero]

end Side

/-! ## One buffer -/

/-- The size of a buffer once there is room for an index. -/
def roomFor (size index : Nat) : Nat :=
  if index < size then size else grownCapacity size (index + 1)

lemma size_grow (cells : Array UInt8) (needed : Nat) :
    (grow cells needed).size = grownCapacity cells.size needed := by
  simp only [grow, grownCapacity, Array.size_append, Array.size_replicate]
  omega

lemma le_roomFor (size index : Nat) : size ≤ roomFor size index := by
  rw [roomFor, grownCapacity]
  split_ifs <;> omega

/-- A buffer that grows at all grows to at least twice its size. -/
lemma two_mul_le_roomFor {size index : Nat} (h : roomFor size index ≠ size) :
    2 * size ≤ roomFor size index := by
  rw [roomFor] at h ⊢
  split_ifs at h ⊢ with hroom
  · exact absurd rfl h
  · rw [grownCapacity]
    omega

/-- A size goes with the indices touched so far. -/
structure Fits (indices : List Nat) (size : Nat) : Prop where
  eq_zero_iff : size = 0 ↔ indices = []
  bounds : ∀ largest, indices.max? = some largest →
    largest < size ∧ leastGrowth ≤ size ∧ size ≤ max leastGrowth (2 * largest)

lemma fits_nil : Fits [] 0 :=
  ⟨by simp, by simp⟩

/-- **One more touch.**  An index past the end is larger than all before it, so the new size is
measured by it alone; any other index leaves the size as it is. -/
lemma Fits.touch {indices : List Nat} {size : Nat} (h : Fits indices size) (index : Nat) :
    Fits (indices ++ [index]) (roomFor size index) := by
  have hroom : index < roomFor size index := by
    rw [roomFor, grownCapacity]
    split_ifs <;> omega
  refine ⟨⟨fun hzero => by omega, fun hnil => by simp at hnil⟩, ?_⟩
  intro largest hlargest
  obtain ⟨hmem, hall⟩ := List.max?_eq_some_iff.mp hlargest
  have hindex : index ≤ largest := hall index (by simp)
  rcases hbefore : indices.max? with _ | before
  · obtain rfl := List.max?_eq_none_iff.mp hbefore
    obtain rfl : size = 0 := h.eq_zero_iff.mpr rfl
    obtain rfl : largest = index := by simpa using hmem
    rw [roomFor, if_neg (Nat.not_lt_zero largest), grownCapacity, leastGrowth]
    omega
  · obtain ⟨hlt, hleast, hmost⟩ := h.bounds before hbefore
    obtain ⟨hbeforeMem, hbeforeAll⟩ := List.max?_eq_some_iff.mp hbefore
    have hle : before ≤ largest := hall before (List.mem_append_left _ hbeforeMem)
    have hcases : largest ≤ before ∨ largest = index :=
      (List.mem_append.mp hmem).imp (hbeforeAll largest) List.mem_singleton.mp
    rw [roomFor, grownCapacity, leastGrowth] at *
    split_ifs at * <;> omega

/-! ## One call -/

namespace Memory

variable {memory : Memory} {side : Side}

/-- The memory with one of its buffers extended. -/
def extend (memory : Memory) : Side → Nat → Memory
  | .right, needed => { memory with right := grow memory.right needed }
  | .left, needed => { memory with left := grow memory.left needed }

lemma policy_extend (memory : Memory) (side : Side) (needed : Nat) :
    (memory.extend side needed).policy = memory.policy := by
  cases side <;> rfl

lemma size_extend (memory : Memory) (side other : Side) (needed : Nat) :
    ((memory.extend side needed).buffer other).size =
      if other = side then grownCapacity (memory.buffer side).size needed
      else (memory.buffer other).size := by
  cases side <;> cases other <;> simp [extend, buffer, size_grow]

/-- **What making room can do.**  It leaves the memory alone, and then no buffer that may grow is too
short for the address; or it extends one buffer, which may grow and is too short. -/
lemma reserve_extends (memory : Memory) (address : Int) :
    ((memory.reserve address).2 = memory ∧ ∀ side index, memory.policy.Grows side →
      side.index? address = some index → index < (memory.buffer side).size) ∨
    ∃ side index, side.index? address = some index ∧ memory.policy.Grows side ∧
      (memory.buffer side).size ≤ index ∧
      (memory.reserve address).2 = memory.extend side (index + 1) := by
  rcases memory with ⟨policy, right, left⟩
  cases address with
  | ofNat index =>
    by_cases hstored : index < right.size
    · refine .inl ⟨by simp only [reserve, if_pos hstored], ?_⟩
      rintro (_ | _) other - hother
      · rw [Int.ofNat_eq_natCast, Side.index?_right_natCast, Option.some.injEq] at hother
        exact hother ▸ hstored
      · simp at hother
    · cases policy with
      | fixed size => exact .inl ⟨by simp only [reserve, if_neg hstored], fun _ _ hgrows => hgrows.elim⟩
      | rightUnbounded | bothUnbounded =>
        refine .inr ⟨.right, index, by simp, by simp [Policy.Grows], Nat.le_of_not_lt hstored, ?_⟩
        simp only [reserve, if_neg hstored, extend]
  | negSucc index =>
    cases policy with
    | fixed size => exact .inl ⟨rfl, fun _ _ hgrows => hgrows.elim⟩
    | rightUnbounded =>
      refine .inl ⟨rfl, ?_⟩
      rintro side other rfl hother
      simp at hother
    | bothUnbounded =>
      by_cases hstored : index < left.size
      · refine .inl ⟨by simp only [reserve, if_pos hstored], ?_⟩
        rintro (_ | _) other - hother
        · simp at hother
        · rw [Side.index?_left_negSucc, Option.some.injEq] at hother
          exact hother ▸ hstored
      · refine .inr ⟨.left, index, by simp, trivial, Nat.le_of_not_lt hstored, ?_⟩
        simp only [reserve, if_neg hstored, extend]

lemma policy_reserve (memory : Memory) (address : Int) :
    (memory.reserve address).2.policy = memory.policy := by
  obtain ⟨hsame, -⟩ | ⟨side, index, -, -, -, hextend⟩ := memory.reserve_extends address
  · rw [hsame]
  · rw [hextend, policy_extend]

lemma size_reserve_of_not_grows (hfixed : ¬ memory.policy.Grows side) (address : Int) :
    ((memory.reserve address).2.buffer side).size = (memory.buffer side).size := by
  obtain ⟨hsame, -⟩ | ⟨other, index, -, hgrows, -, hextend⟩ := memory.reserve_extends address
  · rw [hsame]
  · have hne : side ≠ other := fun heq => hfixed (heq ▸ hgrows)
    rw [hextend, size_extend, if_neg hne]

lemma size_reserve (hgrows : memory.policy.Grows side) (address : Int) :
    ((memory.reserve address).2.buffer side).size =
      ((side.index? address).map (roomFor (memory.buffer side).size)).getD (memory.buffer side).size := by
  obtain ⟨hsame, hroom⟩ | ⟨other, index, hindex, -, hshort, hextend⟩ := memory.reserve_extends address
  · rw [hsame]
    cases hindex : side.index? address with
    | none => rfl
    | some index => simp [roomFor, hroom side index hgrows hindex]
  · rw [hextend, size_extend]
    split_ifs with heq
    · subst heq
      simp [hindex, roomFor, Nat.not_lt.mpr hshort]
    · -- an address lies on one side only
      have hnone : side.index? address = none := by
        cases side <;> cases other <;> cases address <;> simp_all
      simp [hnone]

lemma size_store (memory : Memory) (address : Int) (cell : UInt8) (side : Side) :
    ((memory.store address cell).buffer side).size = (memory.buffer side).size := by
  cases address <;> cases side <;> simp [store, buffer]

lemma policy_store (memory : Memory) (address : Int) (cell : UInt8) :
    (memory.store address cell).policy = memory.policy := by
  cases address <;> rfl

/-- All that a call does to the extent of the buffers is to make room for its address. -/
lemma call_of_address? {call : TapeCall} {address : Int} (h : call.address? = some address)
    (memory : Memory) :
    (memory.call call).2.policy = (memory.reserve address).2.policy ∧
      ∀ side, ((memory.call call).2.buffer side).size = ((memory.reserve address).2.buffer side).size := by
  cases call with
  | get a =>
    obtain rfl : a = address := Option.some.inj h
    rcases hreserve : memory.reserve a with ⟨_ | _, roomy⟩ <;> simp [Memory.call, get, hreserve]
  | set a value =>
    obtain rfl : a = address := Option.some.inj h
    rcases hreserve : memory.reserve a with ⟨_ | _, roomy⟩ <;>
      simp [Memory.call, set, hreserve, policy_store, size_store]
  | add a value =>
    obtain rfl : a = address := Option.some.inj h
    rcases hreserve : memory.reserve a with ⟨_ | _, roomy⟩ <;>
      simp [Memory.call, add, hreserve, policy_store, size_store]
  | peek | inBounds | window => simp [TapeCall.address?] at h

lemma looks_of_address?_eq_none {call : TapeCall} (h : call.address? = none) : call.looks = true := by
  cases call with
  | get | set | add => simp [TapeCall.address?] at h
  | peek | inBounds | window => rfl

lemma policy_call (memory : Memory) (call : TapeCall) : (memory.call call).2.policy = memory.policy := by
  cases haddress : call.address? with
  | none => rw [call_of_looks (looks_of_address?_eq_none haddress)]
  | some address => rw [(call_of_address? haddress memory).1, policy_reserve]

lemma size_call_of_not_grows (hfixed : ¬ memory.policy.Grows side) (call : TapeCall) :
    ((memory.call call).2.buffer side).size = (memory.buffer side).size := by
  cases haddress : call.address? with
  | none => rw [call_of_looks (looks_of_address?_eq_none haddress)]
  | some address => rw [(call_of_address? haddress memory).2, size_reserve_of_not_grows hfixed]

/-- **The size of a buffer after a call** depends on the index that the call touches, and on the size
before it. -/
lemma size_call (hgrows : memory.policy.Grows side) (call : TapeCall) :
    ((memory.call call).2.buffer side).size =
      ((call.index? side).map (roomFor (memory.buffer side).size)).getD (memory.buffer side).size := by
  rw [TapeCall.index?]
  cases haddress : call.address? with
  | none =>
    rw [call_of_looks (looks_of_address?_eq_none haddress)]
    rfl
  | some address => rw [(call_of_address? haddress memory).2, size_reserve hgrows, Option.bind_some]

lemma le_size_call (hgrows : memory.policy.Grows side) (call : TapeCall) :
    (memory.buffer side).size ≤ ((memory.call call).2.buffer side).size := by
  rw [size_call hgrows]
  cases call.index? side with
  | none => exact Nat.le_refl _
  | some index => exact le_roomFor _ index

lemma two_mul_le_size_call (hgrows : memory.policy.Grows side) {call : TapeCall}
    (h : ((memory.call call).2.buffer side).size ≠ (memory.buffer side).size) :
    2 * (memory.buffer side).size ≤ ((memory.call call).2.buffer side).size := by
  rw [size_call hgrows] at h ⊢
  cases hindex : call.index? side with
  | none => simp [hindex] at h
  | some index =>
    rw [hindex, Option.map_some, Option.getD_some] at h
    exact two_mul_le_roomFor h

/-! ## Sequences of calls -/

/-- What every call preserves is preserved by all of them. -/
lemma answerAll_preserves {P : Memory → Prop} (hcall : ∀ memory call, P memory → P (memory.call call).2)
    (h : P memory) (calls : List TapeCall) : P (answerAll Memory.call memory calls).2 := by
  induction calls generalizing memory with
  | nil => exact h
  | cons call more ih => exact ih (hcall memory call h)

lemma policy_answerAll (memory : Memory) (calls : List TapeCall) :
    (answerAll Memory.call memory calls).2.policy = memory.policy := by
  refine answerAll_preserves (P := fun later => later.policy = memory.policy) ?_ rfl calls
  intro later call hpolicy
  rw [policy_call, hpolicy]

lemma size_answerAll_of_not_grows (hfixed : ¬ memory.policy.Grows side) (calls : List TapeCall) :
    ((answerAll Memory.call memory calls).2.buffer side).size = (memory.buffer side).size := by
  refine (answerAll_preserves (P := fun later => ¬ later.policy.Grows side ∧
    (later.buffer side).size = (memory.buffer side).size) ?_ ⟨hfixed, rfl⟩ calls).2
  rintro later call ⟨hlater, hsize⟩
  rw [policy_call, size_call_of_not_grows hlater]
  exact ⟨hlater, hsize⟩

lemma le_size_answerAll (hgrows : memory.policy.Grows side) (calls : List TapeCall) :
    (memory.buffer side).size ≤ ((answerAll Memory.call memory calls).2.buffer side).size := by
  refine (answerAll_preserves (P := fun later => later.policy.Grows side ∧
    (memory.buffer side).size ≤ (later.buffer side).size) ?_ ⟨hgrows, Nat.le_refl _⟩ calls).2
  rintro later call ⟨hlater, hsize⟩
  rw [policy_call]
  exact ⟨hlater, hsize.trans (le_size_call hlater call)⟩

/-- The bounds go on to hold, with what was touched in the meantime added to what was touched before. -/
lemma fits_touched {indices : List Nat} (hgrows : memory.policy.Grows side)
    (h : Fits indices (memory.buffer side).size) (calls : List TapeCall) :
    Fits (indices ++ touched side calls) ((answerAll Memory.call memory calls).2.buffer side).size := by
  induction calls generalizing memory indices with
  | nil => simpa [touched, answerAll] using h
  | cons call more ih =>
    have hafter : (memory.call call).2.policy.Grows side := by rwa [policy_call]
    have hsize := size_call hgrows call
    cases hindex : call.index? side with
    | none =>
      rw [hindex, Option.map_none, Option.getD_none] at hsize
      rw [touched, List.filterMap_cons_none hindex]
      exact ih hafter (hsize ▸ h)
    | some index =>
      rw [hindex, Option.map_some, Option.getD_some] at hsize
      rw [touched, List.filterMap_cons_some hindex, List.append_cons]
      exact ih hafter (hsize ▸ h.touch index)

lemma policy_blank (policy : Policy) : (blank policy).policy = policy := by
  cases policy <;> rfl

lemma size_blank_of_grows {policy : Policy} (hgrows : policy.Grows side) :
    ((blank policy).buffer side).size = 0 := by
  cases policy with
  | fixed size => exact hgrows.elim
  | rightUnbounded | bothUnbounded => cases side <;> rfl

/-- **Buffers are as large as the order of accesses allows, within fixed bounds.**  After any sequence
of calls on a blank tape, both buffers of a fixed tape are as they were made, and a tape that is
bounded to the left stores nothing there.  A buffer that may grow is empty as long as no call has read
or written on its side.  From then on, if `largest` is the largest index touched, it has more than
`largest` cells, at least the least capacity, and at most the larger of that and `2 * largest`.  It
never shrinks, whatever is called next, and whenever a call makes it larger it becomes at least twice
as large; only for the first time, when it is empty, does that say nothing. -/
theorem capacity_bounded (policy : Policy) (calls : List TapeCall) :
    ∃ answers memory, answerAll Memory.call (blank policy) calls = (answers, memory) ∧
      (∀ size, policy = .fixed size → memory.right.size = size ∧ memory.left.size = 0) ∧
      (policy = .rightUnbounded → memory.left.size = 0) ∧
      ∀ side, policy.Grows side →
        ((memory.buffer side).size = 0 ↔ touched side calls = []) ∧
        (∀ largest, (touched side calls).max? = some largest →
          largest < (memory.buffer side).size ∧ 256 ≤ (memory.buffer side).size ∧
            (memory.buffer side).size ≤ max 256 (2 * largest)) ∧
        (∀ more, (memory.buffer side).size ≤ ((answerAll Memory.call memory more).2.buffer side).size) ∧
        ∀ call, ((memory.call call).2.buffer side).size ≠ (memory.buffer side).size →
          2 * (memory.buffer side).size ≤ ((memory.call call).2.buffer side).size := by
  have hpolicy : (answerAll Memory.call (blank policy) calls).2.policy = policy := by
    rw [policy_answerAll, policy_blank]
  have hkept : ∀ side, ¬ policy.Grows side →
      ((answerAll Memory.call (blank policy) calls).2.buffer side).size =
        ((blank policy).buffer side).size := by
    intro side hfixed
    exact size_answerAll_of_not_grows (by rwa [policy_blank]) calls
  refine ⟨_, _, rfl, ?_, ?_, ?_⟩
  · rintro size rfl
    refine ⟨(hkept .right (by simp [Policy.Grows])).trans ?_, hkept .left (by simp [Policy.Grows])⟩
    simp [blank, buffer]
  · rintro rfl
    exact hkept .left (by simp [Policy.Grows])
  · intro side hgrows
    have hlast : (answerAll Memory.call (blank policy) calls).2.policy.Grows side := by rwa [hpolicy]
    have hblank : Fits [] ((blank policy).buffer side).size := by
      rw [size_blank_of_grows hgrows]
      exact fits_nil
    have hfits := fits_touched (by rwa [policy_blank]) hblank calls
    refine ⟨hfits.eq_zero_iff, hfits.bounds, le_size_answerAll hlast, ?_⟩
    intro call hchanged
    exact two_mul_le_size_call hlast hchanged

/-- Jumping about on both sides of the origin, and then further out than any buffer has doubled to. -/
theorem far_jumps_bounded :
    ∃ answers memory, answerAll Memory.call (blank .bothUnbounded)
        [.get 300, .add (-257) 1, .set (-1) 5] = (answers, memory) ∧
      (300 < memory.right.size ∧ memory.right.size ≤ 600) ∧
      (256 < memory.left.size ∧ memory.left.size ≤ 512) ∧
      2 * memory.right.size ≤ (memory.call (.get 700)).2.right.size := by
  obtain ⟨answers, memory, hcalls, -, -, hgrown⟩ :=
    capacity_bounded .bothUnbounded [.get 300, .add (-257) 1, .set (-1) 5]
  obtain ⟨-, hright, -, hdoubles⟩ := hgrown .right trivial
  obtain ⟨-, hleft, -, -⟩ := hgrown .left trivial
  obtain ⟨hrightLow, -, hrightHigh⟩ := hright 300 (by decide)
  obtain ⟨hleftLow, -, hleftHigh⟩ := hleft 256 (by decide)
  have hpolicy : memory.policy = .bothUnbounded := by
    have hkept := policy_answerAll (blank .bothUnbounded) [.get 300, .add (-257) 1, .set (-1) 5]
    rwa [hcalls] at hkept
  have hsize : ((memory.call (.get 700)).2.buffer .right).size = roomFor (memory.buffer .right).size 700 := by
    rw [size_call (by rw [hpolicy]; trivial)]
    rfl
  refine ⟨answers, memory, hcalls, ⟨hrightLow, hrightHigh⟩, ⟨hleftLow, hleftHigh⟩,
    hdoubles (.get 700) ?_⟩
  rw [hsize, roomFor, grownCapacity]
  split_ifs <;> omega

end Memory

end TapeLang
