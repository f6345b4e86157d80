/-!
# The cells of a tape

A tape is a map from integers to bytes of which only finitely many cells are stored.  Two
buffers hold them: `right` the addresses `0, 1, 2, …` and `left` the addresses `-1, -2, -3, …`,
each at the indices `0, 1, 2, …`.  Matching an address against `Int.ofNat` and `Int.negSucc`
therefore names the buffer and the index at once.

* `Policy` says which addresses a tape has at all; `Policy.allows` decides it.
* `Memory.reserve` makes room for one address, or refuses it and changes nothing.
* `Memory.get`, `Memory.set`, `Memory.add` reserve the address first and then work on the cell.
* `Memory.peek` and `Memory.window` look at cells without ever growing a buffer.

Accesses give back the memory along with their result, also when they fail: what a failed access
leaves behind is then part of what it returns.
-/

namespace TapeLang

/-! ## Which addresses exist -/

/-- The size policy of a tape. -/
inductive Policy where
  /-- The addresses `0, …, size - 1`. -/
  | fixed (size : Nat)
  /-- All addresses from `0` upwards, stored on demand. -/
  | rightUnbounded
  /-- All integers, stored on demand. -/
  | bothUnbounded
deriving DecidableEq, Repr, Inhabited

/-- The policy of a tape for which nothing else was asked. -/
def Policy.standard : Policy := .fixed 30000

/-- Whether an address belongs to a tape under the policy. -/
def Policy.allows : Policy → Int → Bool
  | .fixed size, address => decide (0 ≤ address) && decide (address < size)
  | .rightUnbounded, address => decide (0 ≤ address)
  | .bothUnbounded, _ => true

/-- An access to an address that the policy does not allow. -/
structure OutOfBounds where
  address : Int
deriving DecidableEq, Repr

/-- The wording of a refused access. -/
def OutOfBounds.message (e : OutOfBounds) : String :=
  "out of memory bounds [" ++ toString e.address ++ "]"

/-! ## Buffers -/

/-- The least capacity of a buffer that has grown at all. -/
def leastGrowth : Nat := 256

/-- The capacity a buffer of `size` cells grows to when it has to hold `needed` cells.  Doubling
keeps a long walk in one direction linear in its length. -/
def grownCapacity (size needed : Nat) : Nat :=
  max needed (max (2 * size) leastGrowth)

/-- A longer buffer with the same cells, and zeros after them. -/
def grow (cells : Array UInt8) (needed : Nat) : Array UInt8 :=
  cells ++ Array.replicate (grownCapacity cells.size needed - cells.size) 0

/-- The residue of an integer modulo 256, as a cell's contents. -/
def cellOf (value : Int) : UInt8 :=
  UInt8.ofNat (value % 256).toNat

/-- A tape: its policy and its two buffers. -/
structure Memory where
  policy : Policy
  right : Array UInt8
  left : Array UInt8
deriving DecidableEq, Repr

namespace Memory

/-- A blank tape.  A tape of fixed size stores all its cells from the start, any other none. -/
def blank (policy : Policy) : Memory :=
  match policy with
  | .fixed size => { policy, right := Array.replicate size 0, left := #[] }
  | _ => { policy, right := #[], left := #[] }

/-- Whether the policy allows an address. -/
def inBounds (memory : Memory) (address : Int) : Bool :=
  memory.policy.allows address

/-- The contents of a cell; a cell that is not stored reads as zero. -/
def peek (memory : Memory) : Int → UInt8
  | .ofNat index => memory.right.getD index 0
  | .negSucc index => memory.left.getD index 0

/-- The cells from `start` up to, and without, `stop`. -/
def window (memory : Memory) (start stop : Int) : List UInt8 :=
  (List.range (stop - start).toNat).map fun (offset : Nat) => memory.peek (start + offset)

/-- Makes room for an address.  Under a fixed size the buffer is complete, so that an index past
its end is out of bounds; the other policies let the buffer on that side grow. -/
def reserve (memory : Memory) (address : Int) : Except OutOfBounds Unit × Memory :=
  match address with
  | .ofNat index =>
    if index < memory.right.size then (.ok (), memory)
    else
      match memory.policy with
      | .fixed _ => (.error ⟨address⟩, memory)
      | _ => (.ok (), { memory with right := grow memory.right (index + 1) })
  | .negSucc index =>
    match memory.policy with
    | .bothUnbounded =>
      if index < memory.left.size then (.ok (), memory)
      else (.ok (), { memory with left := grow memory.left (index + 1) })
    | _ => (.error ⟨address⟩, memory)

/-- Writes a cell that is stored; any other address is left alone. -/
def store (memory : Memory) (address : Int) (cell : UInt8) : Memory :=
  match address with
  | .ofNat index => { memory with right := memory.right.setIfInBounds index cell }
  | .negSucc index => { memory with left := memory.left.setIfInBounds index cell }

/-- Reads a cell, making room for it. -/
def get (memory : Memory) (address : Int) : Except OutOfBounds UInt8 × Memory :=
  match memory.reserve address with
  | (.ok (), memory) => (.ok (memory.peek address), memory)
  | (.error e, memory) => (.error e, memory)

/-- Writes the residue of `value` modulo 256 into a cell. -/
def set (memory : Memory) (address value : Int) : Except OutOfBounds Unit × Memory :=
  match memory.reserve address with
  | (.ok (), memory) => (.ok (), memory.store address (cellOf value))
  | (.error e, memory) => (.error e, memory)

/-- Adds `value` to a cell modulo 256. -/
def add (memory : Memory) (address value : Int) : Except OutOfBounds Unit × Memory :=
  match memory.reserve address with
  | (.ok (), memory) => (.ok (), memory.store address (memory.peek address + cellOf value))
  | (.error e, memory) => (.error e, memory)

/-- The addresses that are stored, in ascending order. -/
def storedAddresses (memory : Memory) : List Int :=
  ((List.range memory.left.size).reverse.map fun index => Int.negSucc index) ++
    (List.range memory.right.size).map fun index => Int.ofNat index

/-- The cells that are not zero, with their addresses in ascending order. -/
def nonzero (memory : Memory) : List (Int × UInt8) :=
  (memory.storedAddresses.map fun address => (address, memory.peek address)).filter (·.2 ≠ 0)

end Memory

end TapeLang
