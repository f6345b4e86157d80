import TapeLang.Text.Quoted

/-!
# What can be wrong with a pattern

A fault names its cause and, where there is one, the position in the pattern that it blames.
`PatternError.message` words it; for a pattern of several lines it adds the line and the column.
-/

namespace TapeLang.Pattern

/-- What is wrong with a pattern. -/
inductive Cause where
  /-- A repetition of nothing, or of a condition. -/
  | nothingToRepeat
  /-- A repetition of a repetition. -/
  | multipleRepeat
  /-- More repetitions required than allowed. -/
  | leastAboveMost
  /-- A set of characters without its closing bracket. -/
  | unterminatedSet
  /-- A range whose ends are out of order, or no characters. -/
  | badRange (first last : String)
  /-- A group without its closing bracket. -/
  | unterminatedGroup
  /-- A comment without its closing bracket. -/
  | unterminatedComment
  /-- A closing bracket without a group. -/
  | unbalanced
  /-- The pattern ends behind an opening bracket and a question mark. -/
  | unexpectedEnd
  /-- An unknown kind of group. -/
  | unknownExtension (text : String)
  /-- A backslash at the end. -/
  | danglingEscape
  /-- A letter or digit that has no meaning behind a backslash. -/
  | badEscape (text : String)
  /-- A code with too few digits. -/
  | incompleteEscape (text : String)
  /-- An octal code above the range of a byte. -/
  | octalRange (text : String)
  /-- The name of a character without its opening brace. -/
  | missingBrace
  /-- The name of a character or a group is missing. -/
  | missingName (what : String)
  /-- A name without its end. -/
  | unterminatedName (terminator : String)
  /-- A name that no character has. -/
  | unknownCharacter (name : String)
  /-- A name that is no identifier. -/
  | badGroupName (name : String)
  /-- A name given to two groups. -/
  | duplicateGroup (name : String) (new old : Nat)
  /-- A name that no group has. -/
  | unknownGroup (name : String)
  /-- A number that no group has. -/
  | invalidReference (number : Nat)
  /-- The number zero for a group. -/
  | badGroupNumber
  /-- A reference to a group from inside it. -/
  | openGroup
  /-- A reference inside a look behind to a group inside it. -/
  | sameLookBehind
  /-- A condition with more than two branches. -/
  | tooManyBranches
  /-- Flags for the whole pattern that do not stand at its beginning. -/
  | lateFlags
  /-- A letter that is no flag. -/
  | unknownFlag
  /-- Flags that do not end as they should. -/
  | missingFlagEnd (expected : String)
  /-- A flag that needs a locale. -/
  | localeFlag
  /-- Flags that exclude each other. -/
  | incompatibleFlags
  /-- A flag that cannot be turned off. -/
  | permanentFlag
  /-- A flag turned on and off. -/
  | contradictoryFlags
  /-- A look behind over texts of different lengths. -/
  | variableLookBehind
  /-- A pattern that matches the empty text. -/
  | matchesEmpty
deriving DecidableEq, Repr

/-- The wording of each cause. -/
def Cause.message : Cause → String
  | .nothingToRepeat => "nothing to repeat"
  | .multipleRepeat => "multiple repeat"
  | .leastAboveMost => "min repeat greater than max repeat"
  | .unterminatedSet => "unterminated character set"
  | .badRange first last => "bad character range " ++ first ++ "-" ++ last
  | .unterminatedGroup => "missing ), unterminated subpattern"
  | .unterminatedComment => "missing ), unterminated comment"
  | .unbalanced => "unbalanced parenthesis"
  | .unexpectedEnd => "unexpected end of pattern"
  | .unknownExtension text => "unknown extension ?" ++ text
  | .danglingEscape => "bad escape (end of pattern)"
  | .badEscape text => "bad escape " ++ text
  | .incompleteEscape text => "incomplete escape " ++ text
  | .octalRange text => "octal escape value " ++ text ++ " outside of range 0-0o377"
  | .missingBrace => "missing \x7b"
  | .missingName what => "missing " ++ what
  | .unterminatedName terminator => "missing " ++ terminator ++ ", unterminated name"
  | .unknownCharacter name => "undefined character name " ++ Text.quoted name
  | .badGroupName name => "bad character in group name " ++ Text.quoted name
  | .duplicateGroup name new old =>
    "redefinition of group name " ++ Text.quoted name ++ " as group " ++ toString new
      ++ "; was group " ++ toString old
  | .unknownGroup name => "unknown group name " ++ Text.quoted name
  | .invalidReference number => "invalid group reference " ++ toString number
  | .badGroupNumber => "bad group number"
  | .openGroup => "cannot refer to an open group"
  | .sameLookBehind => "cannot refer to group defined in the same lookbehind subpattern"
  | .tooManyBranches => "conditional backref with more than two branches"
  | .lateFlags => "global flags not at the start of the expression"
  | .unknownFlag => "unknown flag"
  | .missingFlagEnd expected => "missing " ++ expected
  | .localeFlag => "bad inline flags: cannot use 'L' flag with a str pattern"
  | .incompatibleFlags => "bad inline flags: flags 'a', 'u' and 'L' are incompatible"
  | .permanentFlag => "bad inline flags: cannot turn off flags 'a', 'u' and 'L'"
  | .contradictoryFlags => "bad inline flags: flag turned on and off"
  | .variableLookBehind => "look-behind requires fixed-width pattern"
  | .matchesEmpty => "pattern matches the empty string"

/-- A fault in a pattern. -/
structure PatternError where
  cause : Cause
  pos : Option Nat
deriving DecidableEq, Repr

/-- The wording of a fault in a given pattern.  Positions count from zero, lines and columns from
one. -/
def PatternError.message (e : PatternError) (pattern : List Char) : String :=
  match e.pos with
  | none => e.cause.message
  | some pos =>
    let place := e.cause.message ++ " at position " ++ toString pos
    if pattern.contains '\n' then
      let before := pattern.take pos
      let column := (before.reverse.takeWhile (· ≠ '\n')).length + 1
      place ++ " (line " ++ toString (before.count '\n' + 1) ++ ", column " ++ toString column ++ ")"
    else place

/-- Why no pattern can be made of a text: the text is faulty, a number of repetitions is beyond all
bounds, or two settings for the whole pattern exclude each other. -/
inductive ReadError where
  | faulty (e : PatternError)
  | tooManyRepetitions
  | incompatibleSettings
deriving DecidableEq, Repr

end TapeLang.Pattern
