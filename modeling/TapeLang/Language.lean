import TapeLang.Lexer.SymbolTable
import TapeLang.Lexer.Ook
import TapeLang.Text.LetterCase
import TapeLang.Text.Quoted

/-!
# The languages known by name
-/

namespace TapeLang

/-- The symbols of Brainfuck. -/
def brainfuckSymbol : TokenKind → Char
  | .pointerUp => '>'
  | .pointerDown => '<'
  | .dataUp => '+'
  | .dataDown => '-'
  | .output => '.'
  | .input => ','
  | .loopHead => '['
  | .loopTail => ']'

/-- The symbol table of Brainfuck.  All symbols are one character long, so any order does. -/
def brainfuckTable : SymbolTable :=
  { entries := TokenKind.all.map fun kind =>
      ⟨[brainfuckSymbol kind], kind, List.cons_ne_nil _ _⟩ }

/-- A language with a lexer of its own. -/
inductive Language where
  | brainfuck
  | ook
deriving DecidableEq, Repr

namespace Language

/-- The lexer of a language. -/
def lexer : Language → Lexer
  | .brainfuck => brainfuckTable.lexer
  | .ook => Ook.lexer

/-- The language with a given name in small letters. -/
def ofLowerName? (name : List Char) : Option Language :=
  if name = "bf".toList ∨ name = "brainfuck".toList then some .brainfuck
  else if name = "ook".toList then some .ook
  else none

end Language

/-- A name that no language has. -/
structure UnknownLanguage where
  name : String
deriving DecidableEq, Repr

/-- The wording of the refusal. -/
def UnknownLanguage.message (e : UnknownLanguage) : String :=
  "Unknown language: " ++ Text.quoted e.name ++ " (known: bf, brainfuck, ook)"

/-- Finds a language by its name, in capitals or not. -/
def Language.ofName (name : String) : Except UnknownLanguage Language :=
  match ofLowerName? (Text.lower name.toList) with
  | some language => .ok language
  | none => .error ⟨name⟩

end TapeLang
