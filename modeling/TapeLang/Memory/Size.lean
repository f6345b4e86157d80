import TapeLang.Memory
import TapeLang.Text.Integer
import TapeLang.Text.LetterCase
import TapeLang.Text.Quoted

/-!
# Describing the size of a tape in words

A size is `right` or `right-unbounded`, `both` or `both-unbounded`, or a number of cells, which
`fixed:` may precede.  Case does not matter, nor does white space at either end.
-/

namespace TapeLang

/-- Why a text does not describe a size. -/
inductive SizeError where
  /-- It has none of the accepted forms. -/
  | unreadable (text : String)
  /-- It is a number below zero. -/
  | negative (size : Int)
deriving DecidableEq, Repr

/-- The wording of each cause. -/
def SizeError.message : SizeError → String
  | .unreadable text =>
    "Invalid memory size: " ++ Text.quoted text ++ " (expected N, fixed:N, right or both)"
  | .negative size => "Fixed memory size must not be negative: " ++ toString size

/-- Drops the word that announces a number of cells. -/
def dropFixed (words : List Char) : List Char :=
  if "fixed:".toList.isPrefixOf words then words.drop 6 else words

/-- Reads the description of a size. -/
def Policy.ofText (text : String) : Except SizeError Policy :=
  let words := Text.lower (Text.strip text.toList)
  if words = "right".toList ∨ words = "right-unbounded".toList then .ok .rightUnbounded
  else if words = "both".toList ∨ words = "both-unbounded".toList then .ok .bothUnbounded
  else
    match Text.integer? (dropFixed words) with
    | none => .error (.unreadable text)
    | some size => if size < 0 then .error (.negative size) else .ok (.fixed size.toNat)

end TapeLang
