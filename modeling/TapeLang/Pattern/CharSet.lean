import TapeLang.Text.Alphanumeric
import TapeLang.Text.Digit
import TapeLang.Text.LetterCase
import TapeLang.Text.Space

/-!
# Tests for one character

A pattern tests single characters against sets of code points, ranges and categories.

* `CharSet` is such a set, possibly negated.
* `CaseMode` says what counts as the same letter: case can matter or not, and letters and
  categories can be those of all scripts or those of ASCII only.
* `CharTest.accepts` is the test.

Code points are numbers here and not characters, because a pattern may name a surrogate; no
character of a text is ever equal to one.
-/

namespace TapeLang.Pattern

/-- The categories of characters. -/
inductive Category where
  | digit
  | space
  | word
deriving DecidableEq, Repr

/-- What counts as the same letter, and which characters the categories hold. -/
structure CaseMode where
  ignoreCase : Bool
  ascii : Bool
deriving DecidableEq, Repr

/-- Whether a character belongs to a category. -/
def Category.holds (category : Category) (ascii : Bool) (c : Char) : Bool :=
  match category, ascii with
  | .digit, true => c.isDigit
  | .digit, false => Text.isDecimal c
  | .space, true => Text.isPlainSpace c
  | .space, false => Text.isSpace c
  | .word, true => c.isAlphanum || c == '_'
  | .word, false => Text.isWordChar c

/-- A member of a set of characters. -/
inductive SetItem where
  /-- One code point. -/
  | code (value : Nat)
  /-- The code points from `first` to `last`, both included. -/
  | range (first last : Nat)
  /-- A category, or everything outside it. -/
  | category (kind : Category) (negated : Bool)
deriving DecidableEq, Repr

/-- A set of characters, or everything outside it. -/
structure CharSet where
  negated : Bool
  items : List SetItem
deriving DecidableEq, Repr

/-- The set of one code point. -/
def CharSet.single (code : Nat) : CharSet :=
  { negated := false, items := [.code code] }

/-- The small letter of a character. -/
def CaseMode.lower (mode : CaseMode) (c : Char) : Char :=
  if mode.ascii then c.toLower else Text.lowerChar c

/-- The characters that count as the same letter as a given small letter. -/
def CaseMode.variants (mode : CaseMode) (c : Char) : List Char :=
  if mode.ascii then [c, c.toUpper] else (Text.caseClass c).flatMap Text.capitalsOf

/-- Whether a member of a set holds a character, case mattering. -/
def SetItem.holds (item : SetItem) (ascii : Bool) (c : Char) : Bool :=
  match item with
  | .code value => c.toNat == value
  | .range first last => decide (first ≤ c.toNat) && decide (c.toNat ≤ last)
  | .category kind negated => kind.holds ascii c != negated

/-- Whether a member of a set holds a small letter or one of its variants. -/
def SetItem.holdsVariant (item : SetItem) (mode : CaseMode) (c : Char) : Bool :=
  match item with
  | .category _ _ => item.holds mode.ascii c
  | _ => (mode.variants c).any (item.holds mode.ascii)

/-- Whether a set holds a character. -/
def CharSet.contains (set : CharSet) (mode : CaseMode) (c : Char) : Bool :=
  let found :=
    if mode.ignoreCase then
      let small := mode.lower c
      set.items.any fun item => item.holdsVariant mode small
    else set.items.any fun item => item.holds mode.ascii c
  found != set.negated

/-- A test for one character. -/
inductive CharTest where
  /-- Any character, newlines included or not. -/
  | any (newline : Bool)
  /-- A character of a set. -/
  | set (chars : CharSet) (mode : CaseMode)
deriving DecidableEq, Repr

/-- Whether a test accepts a character. -/
def CharTest.accepts : CharTest → Char → Bool
  | .any newline, c => newline || c != '\n'
  | .set chars mode, c => chars.contains mode c

end TapeLang.Pattern
