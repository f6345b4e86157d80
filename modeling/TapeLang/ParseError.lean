/-!
# Errors in a source text

An error names its cause and the position, counted in characters, that it blames.  The wording
lives in `ParseError.message`; `ParseError.hint?` adds advice where there is some to give.
-/

namespace TapeLang

/-- What is wrong with a source text. -/
inductive ParseCause where
  /-- The source ends inside a loop. -/
  | unclosedLoop
  /-- A loop is closed that was never opened. -/
  | unopenedLoop
  /-- A rule of the particular language is broken. -/
  | language (detail : String)
  /-- Any other fault, in its own words. -/
  | other (message : String)
deriving DecidableEq, Repr

/-- An error in a source text.  Errors that arise from reading a text blame a position in it;
errors made up from outside may blame any integer. -/
structure ParseError where
  cause : ParseCause
  pos : Int
deriving DecidableEq, Repr

namespace ParseError

/-- The wording of an error. -/
def message (e : ParseError) : String :=
  match e.cause with
  | .unclosedLoop => toString e.pos ++ ": Unexpected end-of-file"
  | .unopenedLoop => toString e.pos ++ ": Unexpected end-of-loop"
  | .language detail => toString e.pos ++ ": syntax error: " ++ detail
  | .other message => message

/-- Whether a list of characters occurs somewhere in another. -/
def occursIn (word : List Char) : List Char → Bool
  | [] => word.isEmpty
  | text@(_ :: rest) => word.isPrefixOf text || occursIn word rest

/-- Whether a fault speaks of an odd number of something, in capitals or not. -/
def speaksOfOddNumber (detail : String) : Bool :=
  occursIn "odd number".toList (detail.toList.map Char.toLower)

/-- Advice on how the error may have come about. -/
def hint? (e : ParseError) : Option String :=
  match e.cause with
  | .unclosedLoop =>
    some "A loop was opened but never closed. Check for a missing loop tail."
  | .unopenedLoop =>
    some "A loop tail appeared outside of any loop. Check for a missing loop head."
  | .language detail =>
    if speaksOfOddNumber detail then
      some "Tokens of this language come in pairs; the last one has no partner."
    else none
  | .other _ => none

end ParseError

end TapeLang
