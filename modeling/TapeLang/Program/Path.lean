import TapeLang.Program

/-!
# Paths to the instructions of a program

A path selects an instruction of a program: each number is an index into the list of
instructions at its depth, and every number but the last selects a loop whose body the next one
indexes into.

* `Program.instrAt` follows a path and says why it leads nowhere if it does (`PathError`).
* `Path.stepIn` and `Path.stepOut` go one level down and up.
* `Program.nextSibling` finds the path of the instruction that follows in the same list.

The numbers are integers, because a path may be handed in from outside.  `Program.instrAt` refuses a
negative number.  `Program.nextSibling` does not look up the last number at all, it only counts
on from it, and a negative number before the last counts from the end of its list (`fromEnd?`).
-/

namespace TapeLang

/-- A path to an instruction, outermost index first. -/
abbrev Path := List Int

/-- Why a path does not select what was asked for. -/
inductive PathError where
  /-- The path has no numbers. -/
  | empty
  /-- A number before the last selects an instruction that has no body. -/
  | notALoop
  /-- A number is negative. -/
  | negative (index : Int)
  /-- A number is not an index of its list. -/
  | outOfRange
  /-- There is no level to step out of. -/
  | noLevel
deriving DecidableEq, Repr

/-- The wording of each cause. -/
def PathError.message : PathError → String
  | .empty => "index must not be empty"
  | .notALoop => "recursive index points to non-loop instruction"
  | .negative index => "negative program index " ++ toString index
  | .outOfRange => "tuple index out of range"
  | .noLevel => "pop from empty list"

namespace Path

/-- The first instruction one level deeper. -/
def stepIn (path : Path) : Path :=
  path ++ [0]

/-- The enclosing level.  Stepping out of the outermost level leaves the empty path. -/
def stepOut (path : Path) : Except PathError Path :=
  match path with
  | [] => .error .noLevel
  | _ :: _ => .ok path.dropLast

/-- Paths are ordered as lists of integers: by the first number that differs, and a path comes
after its proper beginnings. -/
def before : Path → Path → Bool
  | _, [] => false
  | [], _ :: _ => true
  | i :: p, j :: q => if i = j then before p q else decide (i < j)

/-- The numbers of a path in brackets. -/
def render (path : Path) : String :=
  bracketed (path.map toString)

/-- A path with its name in front. -/
def describe (path : Path) : String :=
  "ProgramIndex(" ++ path.render ++ ")"

end Path

/-- The item at an index, where a negative index counts from the end of the list. -/
def fromEnd? {α : Type} (items : List α) (index : Int) : Option α :=
  if 0 ≤ index then items[index.toNat]?
  else
    let position := (items.length : Int) + index
    if 0 ≤ position then items[position.toNat]? else none

namespace Program

/-- The path of the first instruction, if there is one. -/
def firstPath? : Program → Option Path
  | [] => none
  | _ :: _ => some [0]

/-- The instruction that a path selects. -/
def instrAt : Program → Path → Except PathError Instr
  | _, [] => .error .empty
  | program, index :: deeper =>
    if index < 0 then .error (.negative index)
    else
      match program[index.toNat]? with
      | none => .error .outOfRange
      | some instr =>
        match deeper with
        | [] => .ok instr
        | _ :: _ =>
          match instr with
          | .loop body => Program.instrAt body deeper
          | _ => .error .notALoop

/-- The path of the next instruction in the same list, or `none` when the path already selects
the last one of its list. -/
def nextSibling : Program → Path → Except PathError (Option Path)
  | _, [] => .error .empty
  | program, [index] =>
    .ok (if index + 1 < (program.length : Int) then some [index + 1] else none)
  | program, index :: deeper =>
    match fromEnd? program index with
    | none => .error .outOfRange
    | some (.loop body) =>
      match Program.nextSibling body deeper with
      | .ok next => .ok (next.map (index :: ·))
      | .error e => .error e
    | some _ => .error .notALoop

end Program

end TapeLang
