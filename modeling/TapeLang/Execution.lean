import TapeLang.Language
import TapeLang.Machine.Run
import TapeLang.Source

/-!
# From source text to output

`runText` and `runFile` read a program in a language known by name, run it on a new machine, and
give back what it wrote and where its pointer ended.  Like `Machine.run` they are bounded by a depth,
and yield `none` if it was too small.
-/

namespace TapeLang

/-- How to run a program. -/
structure RunOptions where
  language : String := "bf"
  policy : Policy := .standard
deriving DecidableEq, Repr

/-- What a finished run leaves behind. -/
structure RunResult where
  output : Array UInt8
  pointer : Int
deriving DecidableEq, Repr

/-- Why a source text does not run to its end. -/
inductive RunError where
  | language (e : UnknownLanguage)
  | source (e : ReadFailure)
  /-- The run failed, having written some output. -/
  | fault (fault : Fault) (output : Array UInt8)
deriving DecidableEq, Repr

/-- Reads a source text. -/
def parseText (options : RunOptions) (source : String) : Except RunError Program :=
  match Language.ofName options.language with
  | .error e => .error (.language e)
  | .ok language =>
    match language.lexer.parse source with
    | .error e => .error (.source e)
    | .ok program => .ok program

/-- Reads and runs a source text. -/
def runText (depth : Nat) (options : RunOptions) (source : String) (input : List UInt8) :
    Option (Except RunError RunResult) :=
  match parseText options source with
  | .error e => some (.error e)
  | .ok program =>
    match Machine.run depth program (Machine.init options.policy { pending := input } {}) with
    | none => none
    | some (.error fault, machine) => some (.error (.fault fault machine.sink.written))
    | some (.ok (), machine) =>
      some (.ok { output := machine.sink.written, pointer := machine.pointer })

/-- Why a file does not run to its end. -/
inductive RunFileError where
  | file (e : TextFileError)
  | run (e : RunError)
deriving DecidableEq, Repr

/-- Reads and runs a file. -/
def runFile (depth : Nat) (options : RunOptions) (directory : Directory) (encoding : Text.Encoding)
    (name : String) (input : List UInt8) : Option (Except RunFileError RunResult) :=
  match directory.readText encoding name with
  | .error e => some (.error (.file e))
  | .ok source =>
    match runText depth options source input with
    | none => none
    | some (.error e) => some (.error (.run e))
    | some (.ok result) => some (.ok result)

end TapeLang
