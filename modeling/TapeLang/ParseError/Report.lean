import TapeLang.ParseError
import TapeLang.Text.Column

/-!
# Showing an error in its source text

A report says in which line and column the blamed position lies and shows the lines around it,
with a caret under the position.

* `lines` cuts a text at its newlines, so that a text always has one line more than newlines.
* `Place.ofPos` finds the line and column of a position.
* `excerpt` chooses the rows to show, `Row.render` writes one, and `ParseError.describe` puts the
  whole report together.
-/

namespace TapeLang

/-- The lines of a text, without their newlines. -/
def lines : List Char → List (List Char)
  | [] => [[]]
  | c :: rest =>
    if c = '\n' then [] :: lines rest
    else
      match lines rest with
      | [] => [[c]]
      | line :: more => (c :: line) :: more

/-- A line and a column, both counted from one. -/
structure Place where
  line : Int
  column : Int
deriving DecidableEq, Repr

/-- The text before a position.  A negative position counts from the end of the text, and no
position reaches beyond either end. -/
def textBefore (source : List Char) (pos : Int) : List Char :=
  source.take (if pos < 0 then (source.length + pos).toNat else pos.toNat)

/-- The length of the text after its last newline. -/
def lastLineLength (text : List Char) : Nat :=
  (text.reverse.takeWhile (· ≠ '\n')).length

/-- The place of a position in a text.  A position past the end lies on the last line. -/
def Place.ofPos (source : List Char) (pos : Int) : Place :=
  let head := textBefore source pos
  { line := head.count '\n' + 1
    column := pos - (head.length - lastLineLength head) + 1 }

/-! ## The excerpt -/

/-- A row of an excerpt. -/
inductive Row where
  /-- A line of the text with its number; the line in question is marked. -/
  | line (number : Nat) (marked : Bool) (text : List Char)
  /-- A caret under a column. -/
  | caret (column : Int)
deriving DecidableEq, Repr

/-- Writes a row: a mark, the line number in four columns, and the line. -/
def Row.render : Row → String
  | .line number marked text =>
    (if marked then ">" else " ") ++ " " ++ Text.padLeft 4 (toString number) ++ " | "
      ++ String.ofList text
  | .caret column => "  " ++ Text.blanks 4 ++ " | " ++ Text.blanks (column - 1) ++ "^"

/-- The number of the line that an excerpt is about: the nearest one that the text has. -/
def focusLine (text : List (List Char)) (line : Int) : Int :=
  max 1 (min line text.length)

/-- The lines numbered `number`, `number + 1`, … as rows, the focus followed by its caret. -/
def rowsFrom (focus column : Int) : Nat → List (List Char) → List Row
  | _, [] => []
  | number, text :: more =>
    let here := decide ((number : Int) = focus)
    .line number here text ::
      ((if here then [.caret column] else []) ++ rowsFrom focus column (number + 1) more)

/-- The rows to show for a place: the focus line with up to `context` lines on either side. -/
def excerpt (text : List (List Char)) (place : Place) (context : Int) : List Row :=
  let focus := focusLine text place.line
  let first := max 1 (focus - context)
  let last := min (text.length : Int) (focus + context)
  rowsFrom focus place.column first.toNat
    ((text.drop (first.toNat - 1)).take (last - first + 1).toNat)

/-- The excerpt as text. -/
def excerptText (text : List (List Char)) (place : Place) (context : Int) : String :=
  String.intercalate "\n" ((excerpt text place context).map Row.render)

/-- The number of lines shown on either side of the blamed one. -/
def reportContext : Int := 2

/-- The report on an error in a source text. -/
def ParseError.describe (e : ParseError) (source : String) : String :=
  let text := source.toList
  let place := Place.ofPos text e.pos
  let hint :=
    match e.hint? with
    | some advice => "\nHint: " ++ advice
    | none => ""
  "ParseError: " ++ e.message ++ " (line " ++ toString place.line ++ ", column "
    ++ toString place.column ++ ")\n" ++ excerptText (lines text) place reportContext ++ hint

end TapeLang
