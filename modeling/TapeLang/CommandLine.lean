import TapeLang.CommandLine.Arguments
import TapeLang.Execution
import TapeLang.Machine.Trace
import TapeLang.Memory.Size
import TapeLang.ParseError.Report

/-!
# The command

`CommandLine.run` is the whole program as a function: from the arguments, the files of the working
directory and the standard input to an exit code and what is written to the two output streams.

Faults are reported in the order in which they are looked for: the arguments, the size of the tape,
the language, a source that would use up the program's own input, the source file, the program text,
the input file, and at last the run.
-/

namespace TapeLang.CommandLine

/-- What a command leaves behind. -/
structure Result where
  code : Nat
  output : Array UInt8
  errors : String
deriving DecidableEq, Repr

/-- A command that failed before it wrote any output. -/
def Result.failed (code : Nat) (errors : String) : Result :=
  { code, output := #[], errors }

/-- A command that was called in a wrong way. -/
def Result.usage (message : String) : Result :=
  .failed 2 ("bflike: error: " ++ message ++ "\n")

/-! ## Log lines -/

/-- A line that is written only when details are asked for. -/
def detail (verbose : Bool) (origin message : String) : String :=
  if verbose then "DEBUG bflike." ++ origin ++ ": " ++ message ++ "\n" else ""

/-- The line on a program that has been read. -/
def parsedLine (verbose : Bool) (program : Program) (source : String) : String :=
  detail verbose "parser" ("parsed " ++ toString program.length ++ " top-level instructions from "
    ++ toString source.length ++ " chars")

/-- The report on a run that failed. -/
def faultReport (message : String) : String :=
  "\nRuntimeError: " ++ message ++ "\n"

/-- The report on something that cannot be read. -/
def unreadable (name message : String) : String :=
  "Couldn't read " ++ name ++ ": " ++ message ++ "\n"

/-! ## Running -/

/-- Runs a program without observation; `log` is what has been written to the error stream. -/
def runPlain (depth : Nat) (verbose : Bool) (log : String) (program : Program) (machine : Machine) :
    Option Result :=
  let begun := log ++ detail verbose "runtime"
    ("running " ++ toString program.length ++ " top-level instructions")
  match Machine.run depth program machine with
  | none => none
  | some (.error fault, machine) =>
    some { code := 1, output := machine.sink.written, errors := begun ++ faultReport fault.message }
  | some (.ok (), machine) =>
    some
      { code := 0
        output := machine.sink.written
        errors := begun ++ detail verbose "runtime"
          ("finished with pointer at " ++ toString machine.pointer) }

/-- The text of an event of a traced run. -/
def eventText (verbose : Bool) : TraceEvent → String
  | .frame snapshot => snapshot.render ++ "\n"
  | .entered path => detail verbose "runtime" ("entered loop body at " ++ path.render)

/-- The wording of a failed step. -/
def stepMessage : StepError → String
  | .fault fault => fault.message
  | .path e => e.message

/-- Runs a program under observation. -/
def runTraced (depth : Nat) (verbose : Bool) (limit : Option Int) (log : String) (program : Program)
    (machine : Machine) : Option Result :=
  match (Stepper.init program machine).trace limit standardRadius depth with
  | none => none
  | some traced =>
    let seen := log ++ String.join (traced.events.map (eventText verbose))
    let output := traced.stepper.machine.sink.written
    match traced.result with
    | .error e => some { code := 1, output, errors := seen ++ faultReport (stepMessage e) }
    | .ok () =>
      let warning :=
        if traced.stepper.running then
          "WARNING bflike.cli: stopped after " ++ toString traced.stepper.steps ++ " steps\n"
        else ""
      some { code := 0, output, errors := seen ++ warning }

/-- The report on a source text that is no program. -/
def readReport (source : String) : ReadFailure → String
  | .source e => e.describe source ++ "\n"
  | .misuse e => e.message?.getD "" ++ "\n"

/-! ## The command as a function -/

/-- The name that stands for the standard input. -/
def standardInput : String := "-"

/-- The source text. -/
def readSource (directory : Directory) (stdin : List UInt8) (name : String) :
    Except TextFileError String :=
  if name = standardInput then
    match Text.readText .utf8 stdin with
    | .error e => .error (.undecodable e)
    | .ok text => .ok text
  else directory.readText .utf8 name

/-- The input of the program.  What the source was read from has nothing left to give, and an empty
name stands for the standard input. -/
def readInput (directory : Directory) (stdin : List UInt8) (arguments : Arguments) :
    Except (String × FileError) (List UInt8) :=
  match arguments.input with
  | some name =>
    if name = "" then .ok (if arguments.file = standardInput then [] else stdin)
    else
      match directory.read name with
      | .error e => .error (name, e)
      | .ok bytes => .ok bytes
  | none => .ok (if arguments.file = standardInput then [] else stdin)

/-- Carries out what the arguments ask for. -/
def execute (depth : Nat) (directory : Directory) (stdin : List UInt8) (arguments : Arguments) :
    Option Result :=
  match Policy.ofText arguments.memory, Language.ofName arguments.language with
  | .error e, _ => some (.usage e.message)
  | .ok _, .error e => some (.usage e.message)
  | .ok policy, .ok language =>
    if arguments.file = standardInput ∧ arguments.input = none then
      some (.usage "program input must come from --input when the source is read from stdin")
    else
      match readSource directory stdin arguments.file with
      | .error e => some (.failed 1 (unreadable arguments.file e.message))
      | .ok source =>
        match language.lexer.parse source with
        | .error e => some (.failed 1 (readReport source e))
        | .ok program =>
          let log := parsedLine arguments.verbose program source
          match readInput directory stdin arguments with
          | .error (name, e) => some (.failed 1 (log ++ unreadable name e.message))
          | .ok input =>
            let machine := Machine.init policy { pending := input } {}
            if arguments.trace then
              runTraced depth arguments.verbose arguments.maxSteps log program machine
            else runPlain depth arguments.verbose log program machine

/-- The whole command.  The result is `none` only if the run needs more than the given depth. -/
def run (depth : Nat) (directory : Directory) (stdin : List UInt8) (arguments : List String) :
    Option Result :=
  match Arguments.ofList arguments with
  | .error .help => some (.failed 0 "")
  | .error (.usage e) => some (.usage e.message)
  | .ok arguments => execute depth directory stdin arguments

end TapeLang.CommandLine
