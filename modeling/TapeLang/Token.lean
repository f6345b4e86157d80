/-!
# Tokens

Every language of the family has the same eight commands and differs only in how they are
written.  A `Token` is one written command: what it commands, the text it was written as, and
where that text starts, counted in characters from the beginning of the source.
-/

namespace TapeLang

/-- The eight commands. -/
inductive TokenKind where
  /-- Move the pointer one cell to the right. -/
  | pointerUp
  /-- Move the pointer one cell to the left. -/
  | pointerDown
  /-- Add one to the current cell. -/
  | dataUp
  /-- Take one from the current cell. -/
  | dataDown
  /-- Write the current cell. -/
  | output
  /-- Read into the current cell. -/
  | input
  /-- Open a loop. -/
  | loopHead
  /-- Close a loop. -/
  | loopTail
deriving DecidableEq, Repr, Inhabited

namespace TokenKind

/-- The eight commands in their customary order. -/
def all : List TokenKind :=
  [.pointerUp, .pointerDown, .dataUp, .dataDown, .output, .input, .loopHead, .loopTail]

/-- The short name under which a command appears in messages. -/
def tag : TokenKind → String
  | .pointerUp => "PINC"
  | .pointerDown => "PDEC"
  | .dataUp => "DINC"
  | .dataDown => "DDEC"
  | .output => "OUTPUT"
  | .input => "INPUT"
  | .loopHead => "LOOP_HEAD"
  | .loopTail => "LOOP_TAIL"

/-- The place of a command in the customary order, counted from one. -/
def ordinal : TokenKind → Nat
  | .pointerUp => 1
  | .pointerDown => 2
  | .dataUp => 3
  | .dataDown => 4
  | .output => 5
  | .input => 6
  | .loopHead => 7
  | .loopTail => 8

/-- The command with a given short name. -/
def ofTag? (name : String) : Option TokenKind :=
  all.find? fun kind => kind.tag == name

end TokenKind

/-- One written command. -/
structure Token where
  kind : TokenKind
  text : String
  pos : Nat
deriving DecidableEq, Repr, Inhabited

/-- What a reader of tokens gets when nothing is wrong: the next token, or the end of the source
with its position. -/
inductive Item where
  | token (t : Token)
  | finish (pos : Nat)
deriving DecidableEq, Repr, Inhabited

/-- The command of an item; the end of the source has none. -/
def Item.kind? : Item → Option TokenKind
  | .token t => some t.kind
  | .finish _ => none

/-- Where an item stands in the source. -/
def Item.pos : Item → Nat
  | .token t => t.pos
  | .finish pos => pos

end TapeLang
