import TapeLang.Pattern.CharSet

/-!
# The structure of patterns

A pattern is a tree of nodes.  Flags have been worked into the nodes that they concern, so a tree
means the same wherever it stands.

`Node.width` bounds the lengths of the texts that a node can match.  A look behind goes back by the
width of its body, which therefore has to be the same for all texts that the body matches.
-/

namespace TapeLang.Pattern

/-- Conditions on a place in a text. -/
inductive Anchor where
  /-- The beginning of the text. -/
  | textStart
  /-- The end of the text. -/
  | textEnd
  /-- The beginning of a line. -/
  | lineStart
  /-- The end of a line. -/
  | lineEnd
  /-- The end of the text, or the place before a newline that ends it. -/
  | lastLineEnd
  /-- Between a character of a word and one that is none. -/
  | wordEdge (ascii : Bool)
  /-- Anywhere else. -/
  | notWordEdge (ascii : Bool)
deriving DecidableEq, Repr

/-- In which order the numbers of repetitions are tried. -/
inductive Greed where
  /-- Many before few. -/
  | greedy
  /-- Few before many. -/
  | lazy
  /-- As many as possible, and no others. -/
  | possessive
deriving DecidableEq, Repr

/-- A node of a pattern. -/
inductive Node where
  /-- Matches the empty text. -/
  | empty
  /-- Matches one character. -/
  | char (test : CharTest)
  /-- Matches the empty text where a condition holds. -/
  | anchor (condition : Anchor)
  /-- One node after the other. -/
  | seq (first second : Node)
  /-- Either node, the first one preferred. -/
  | alt (first second : Node)
  /-- The body at least `least` times, and at most `most` times if that is given. -/
  | rep (greed : Greed) (least : Nat) (most : Option Nat) (body : Node)
  /-- The body, whose text is remembered under a number. -/
  | group (number : Nat) (body : Node)
  /-- The first way in which the body matches, and no other. -/
  | atomic (body : Node)
  /-- The empty text where the body matches, or where it does not. -/
  | ahead (positive : Bool) (body : Node)
  /-- The empty text behind a place where the body matches `width` characters, or where it does
  not. -/
  | behind (positive : Bool) (width : Nat) (body : Node)
  /-- The text remembered under a number. -/
  | backref (number : Nat) (mode : CaseMode)
  /-- One node if a text is remembered under a number, and another if not. -/
  | ifGroup (number : Nat) (yes no : Node)
deriving DecidableEq, Repr

/-! ## Widths -/

/-- Bounds for the length of a text. -/
structure Width where
  least : Nat
  most : Nat
deriving DecidableEq, Repr

/-- The bound that stands for no bound. -/
def unboundedWidth : Nat := 18446744073709551616

namespace Width

/-- Cuts bounds off where they stand for no bound. -/
def clamp (width : Width) : Width :=
  ⟨min width.least unboundedWidth, min width.most unboundedWidth⟩

/-- One text after the other. -/
def plus (a b : Width) : Width :=
  clamp ⟨a.least + b.least, a.most + b.most⟩

/-- One text or the other. -/
def either (a b : Width) : Width :=
  ⟨min a.least b.least, max a.most b.most⟩

/-- Repetitions of a text. -/
def times (least : Nat) (most : Option Nat) (width : Width) : Width :=
  clamp ⟨width.least * least,
    match most with
    | some most => width.most * most
    | none => if width.most = 0 then 0 else unboundedWidth⟩

end Width

/-- The bounds for a node, given those of the groups it may refer to. -/
def Node.width (groups : Nat → Width) : Node → Width
  | .empty => ⟨0, 0⟩
  | .char _ => ⟨1, 1⟩
  | .anchor _ => ⟨0, 0⟩
  | .seq first second => (first.width groups).plus (second.width groups)
  | .alt first second => (first.width groups).either (second.width groups)
  | .rep _ least most body => Width.times least most (body.width groups)
  | .group _ body => body.width groups
  | .atomic body => body.width groups
  | .ahead _ _ => ⟨0, 0⟩
  | .behind _ _ _ => ⟨0, 0⟩
  | .backref number _ => groups number
  | .ifGroup _ yes no => (yes.width groups).either (no.width groups)

/-- Nodes one after the other. -/
def Node.sequence : List Node → Node
  | [] => .empty
  | [node] => node
  | node :: more => .seq node (sequence more)

/-- Nodes to choose from, earlier ones preferred. -/
def Node.choice : List Node → Node
  | [] => .empty
  | [node] => node
  | node :: more => .alt node (choice more)

end TapeLang.Pattern
