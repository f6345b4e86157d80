/-!
# Programs

A program is a list of instructions.  A run of moves or of additions is a single instruction that
carries its sum, and a loop holds its body, so a program is a tree.

* `Action` is what an instruction other than a loop does.
* `Instr` is the tree, with decidable equality (`Instr.decEq`).
* `Instr.render` and `Program.render` write a tree out as text.

`Action.nop` stands for a run whose steps cancel.  Reading source text never leaves one in a
program, but a program that is put together by hand may hold it; no machine executes it.
-/

namespace TapeLang

/-- What an instruction other than a loop does. -/
inductive Action where
  /-- Move the pointer by `n` cells, to the right when `n` is positive. -/
  | move (n : Int)
  /-- Add `n` to the current cell. -/
  | add (n : Int)
  /-- Write the current cell to the output. -/
  | output
  /-- Read a byte of the input into the current cell. -/
  | input
  /-- A run that cancels out. -/
  | nop
deriving DecidableEq, Repr, Inhabited

/-- An instruction of a tape program. -/
inductive Instr where
  /-- A single action. -/
  | act (action : Action)
  /-- Repeat the body while the current cell is not zero. -/
  | loop (body : List Instr)
deriving Repr, Inhabited

/-- A program is executed from its first instruction to its last. -/
abbrev Program := List Instr

/-! ## Equality

The tree branches through lists, so equality is decided by two functions, one for a node and one
for a list of nodes. -/

mutual

/-- Decides whether two instructions are the same tree. -/
def Instr.decEq : (x y : Instr) → Decidable (x = y)
  | .act a, .act b => if h : a = b then isTrue (h ▸ rfl) else isFalse (by simp [h])
  | .loop xs, .loop ys =>
    match Instr.decEqList xs ys with
    | isTrue h => isTrue (h ▸ rfl)
    | isFalse h => isFalse (by simp [h])
  | .act _, .loop _ => isFalse nofun
  | .loop _, .act _ => isFalse nofun

/-- Decides whether two lists of instructions are the same. -/
def Instr.decEqList : (xs ys : List Instr) → Decidable (xs = ys)
  | [], [] => isTrue rfl
  | [], _ :: _ => isFalse nofun
  | _ :: _, [] => isFalse nofun
  | x :: xs, y :: ys =>
    match Instr.decEq x y, Instr.decEqList xs ys with
    | isTrue h, isTrue h' => isTrue (h ▸ h' ▸ rfl)
    | isFalse h, _ => isFalse (by simp [h])
    | _, isFalse h => isFalse (by simp [h])

end

instance : DecidableEq Instr := Instr.decEq

/-! ## Text of a program -/

/-- A comma-separated enumeration. -/
def commaSeparated (items : List String) : String :=
  String.intercalate ", " items

/-- An enumeration in square brackets. -/
def bracketed (items : List String) : String :=
  "[" ++ commaSeparated items ++ "]"

/-- An enumeration in round brackets, where a single item is followed by a comma so that it
cannot be read as a bracketed expression. -/
def parenthesised : List String → String
  | [item] => "(" ++ item ++ ",)"
  | items => "(" ++ commaSeparated items ++ ")"

/-- The text of an action. -/
def Action.render : Action → String
  | .move n => "Move(n=" ++ toString n ++ ")"
  | .add n => "Add(n=" ++ toString n ++ ")"
  | .output => "Output()"
  | .input => "Input()"
  | .nop => "Nop()"

mutual

/-- The text of an instruction. -/
def Instr.render : Instr → String
  | .act action => action.render
  | .loop body => "Loop(body=" ++ parenthesised (Instr.renderList body) ++ ")"

/-- The texts of a list of instructions. -/
def Instr.renderList : List Instr → List String
  | [] => []
  | x :: xs => x.render :: Instr.renderList xs

end

/-- The text of a whole program. -/
def Program.render (program : Program) : String :=
  "Program(" ++ bracketed (Instr.renderList program) ++ ")"

end TapeLang
