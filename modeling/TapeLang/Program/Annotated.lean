import TapeLang.Program
import TapeLang.Token
import TapeLang.Text.Quoted

/-!
# Programs with their tokens

An annotated program keeps, for every instruction, the tokens that it was read from.  Nothing is
left out: a run that cancels stays in the tree as an `Action.nop` with its tokens, and a loop
carries all tokens from its head to its tail, those of its body included.

`AnnotatedProgram.erase` forgets the tokens and the cancelled runs.
-/

namespace TapeLang

/-- An instruction and the tokens that it came from. -/
inductive Annotated where
  /-- A single action. -/
  | act (action : Action) (tokens : List Token)
  /-- A loop. -/
  | loop (body : List Annotated) (tokens : List Token)
deriving Repr, Inhabited

/-- The tokens of an annotated instruction, in the order of the source. -/
def Annotated.tokens : Annotated → List Token
  | .act _ tokens => tokens
  | .loop _ tokens => tokens

/-- A program that keeps its tokens. -/
abbrev AnnotatedProgram := List Annotated

mutual

/-- The plain instruction of an annotated one; a cancelled run has none. -/
def Annotated.erase? : Annotated → Option Instr
  | .act .nop _ => none
  | .act action _ => some (.act action)
  | .loop body _ => some (.loop (Annotated.eraseList body))

/-- The plain instructions of a list of annotated ones. -/
def Annotated.eraseList : List Annotated → List Instr
  | [] => []
  | node :: more =>
    match node.erase? with
    | some instr => instr :: Annotated.eraseList more
    | none => Annotated.eraseList more

end

/-- The plain program of an annotated one. -/
def AnnotatedProgram.erase (program : AnnotatedProgram) : Program :=
  Annotated.eraseList program

/-! ## Text of an annotated program -/

/-- The text of a token. -/
def Token.render (token : Token) : String :=
  "TokenInfo(token=Token(token_type=<TokenType." ++ token.kind.tag ++ ": "
    ++ toString token.kind.ordinal ++ ">, token_str=" ++ Text.quoted token.text
    ++ "), pos_in_chars=" ++ toString token.pos ++ ")"

/-- The text of an annotated instruction, given the text of what it does. -/
def annotatedText (kind : String) (tokens : List Token) : String :=
  "AnnotatedInstruction(kind=" ++ kind ++ ", tokens=" ++ parenthesised (tokens.map Token.render)
    ++ ")"

mutual

/-- The text of an annotated instruction. -/
def Annotated.render : Annotated → String
  | .act action tokens => annotatedText action.render tokens
  | .loop body tokens =>
    annotatedText ("AnnotatedLoop(body=" ++ parenthesised (Annotated.renderList body) ++ ")") tokens

/-- The texts of a list of annotated instructions. -/
def Annotated.renderList : List Annotated → List String
  | [] => []
  | node :: more => node.render :: Annotated.renderList more

end

/-- The text of a whole annotated program. -/
def AnnotatedProgram.render (program : AnnotatedProgram) : String :=
  "AnnotatedProgram(" ++ bracketed (Annotated.renderList program) ++ ")"

end TapeLang
