import TapeLang.Program.Annotated
import TapeLang.Pushback

/-!
# Reading programs from tokens

Runs of pointer tokens and of data tokens become one instruction each.  The loops that are open are
kept as a stack of unfinished bodies, innermost first; each body is held with its latest
instruction first and turned around when its loop closes.

* `Program.ofStream` reads a plain program, in which cancelled runs leave no trace.
* `AnnotatedProgram.ofStream` reads a program that keeps every token.
* `Lexer.parse` and `Lexer.parseAnnotated` read a source text.

Both readers stop at the first thing that is wrong: an error of the lexer, a loop tail without a
head, or the end of the source inside a loop.
-/

namespace TapeLang

namespace Program

/-- Reads instructions into `body`, the innermost unfinished body, with the bodies around it in
`outer`. -/
def readBodies (body : List Instr) (outer : List (List Instr)) (context : Pushback) :
    Except ReadFailure Program :=
  match _h : context.next with
  | (.error e, _) => .error (.source e)
  | (.ok (.finish pos), _) =>
    match outer with
    | [] => .ok body.reverse
    | _ :: _ => .error (.source ⟨.unclosedLoop, pos⟩)
  | (.ok (.token token), after) =>
    have : after.weight < context.weight := Pushback.weight_lt_of_next _h
    match token.kind with
    | .output => readBodies (.act .output :: body) outer after
    | .input => readBodies (.act .input :: body) outer after
    | .loopHead => readBodies [] (body :: outer) after
    | .loopTail =>
      match outer with
      | [] => .error (.source ⟨.unopenedLoop, token.pos⟩)
      | parent :: outer => readBodies (.loop body.reverse :: parent) outer after
    | _ =>
      match _hrun : after.foldRun (.token token) with
      | (.error e, _) => .error e
      | (.ok run, behind) =>
        have : behind.weight ≤ after.weight := by
          have := after.weight_foldRun_le (.token token)
          rwa [_hrun] at this
        readBodies (if run.sum = 0 then body else .act run.action :: body) outer behind
termination_by context.weight

/-- Reads a program from a token stream. -/
def ofStream (stream : TokenStream) : Except ReadFailure Program :=
  readBodies [] [] (Pushback.ofStream stream)

end Program

namespace AnnotatedProgram

/-- An unfinished loop: the token that opened it, and the body it stands in so far, latest
instruction first. -/
structure Opening where
  head : Token
  parent : List Annotated

/-- The loop that a tail closes.  Its tokens are its head, the tokens of its body and its tail. -/
def closeLoop (head : Token) (body : List Annotated) (tail : Token) : Annotated :=
  .loop body (head :: body.flatMap Annotated.tokens ++ [tail])

/-- Reads annotated instructions into `body`, inside the loops that are open. -/
def readBodies (body : List Annotated) (outer : List Opening) (context : Pushback) :
    Except ReadFailure AnnotatedProgram :=
  match _h : context.next with
  | (.error e, _) => .error (.source e)
  | (.ok (.finish pos), _) =>
    match outer with
    | [] => .ok body.reverse
    | _ :: _ => .error (.source ⟨.unclosedLoop, pos⟩)
  | (.ok (.token token), after) =>
    have : after.weight < context.weight := Pushback.weight_lt_of_next _h
    match token.kind with
    | .output => readBodies (.act .output [token] :: body) outer after
    | .input => readBodies (.act .input [token] :: body) outer after
    | .loopHead => readBodies [] (⟨token, body⟩ :: outer) after
    | .loopTail =>
      match outer with
      | [] => .error (.source ⟨.unopenedLoop, token.pos⟩)
      | opening :: outer =>
        readBodies (closeLoop opening.head body.reverse token :: opening.parent) outer after
    | _ =>
      match _hrun : after.foldRun (.token token) with
      | (.error e, _) => .error e
      | (.ok run, behind) =>
        have : behind.weight ≤ after.weight := by
          have := after.weight_foldRun_le (.token token)
          rwa [_hrun] at this
        readBodies (.act run.action run.tokens :: body) outer behind
termination_by context.weight

/-- Reads an annotated program from a token stream. -/
def ofStream (stream : TokenStream) : Except ReadFailure AnnotatedProgram :=
  readBodies [] [] (Pushback.ofStream stream)

end AnnotatedProgram

/-- Reads a source text as a program. -/
def Lexer.parse (lexer : Lexer) (source : String) : Except ReadFailure Program :=
  Program.ofStream (lexer.stream source)

/-- Reads a source text as an annotated program. -/
def Lexer.parseAnnotated (lexer : Lexer) (source : String) : Except ReadFailure AnnotatedProgram :=
  AnnotatedProgram.ofStream (lexer.stream source)

end TapeLang
