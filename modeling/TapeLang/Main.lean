import TapeLang.CommandLine

/-!
# The executable

Reads the files that the command line names and the standard input where it is needed, and hands
them to `CommandLine.run`.
-/

namespace TapeLang.Executable

/-- A file as an entry of a directory; a name that is no file leads to none. -/
def readEntry (name : String) : IO Directory := do
  try
    let bytes ← IO.FS.readBinFile name
    return { files := [(name, bytes.toList)] }
  catch
    | .noFileOrDirectory _ _ _ => return { files := [] }
    | _ => return { files := [], directories := [name] }

/-- Whether a command takes anything from the standard input. -/
def needsStandardInput (arguments : CommandLine.Arguments) : Bool :=
  arguments.file == CommandLine.standardInput || arguments.input.all (· == "")

/-- The files that a command names, and the standard input if it takes anything from there. -/
def surroundings (arguments : CommandLine.Arguments) : IO (Directory × List UInt8) := do
  let source ← readEntry arguments.file
  let input ← arguments.input.elim (pure { files := [] }) readEntry
  let stdin ←
    if needsStandardInput arguments then
      let bytes ← (← IO.getStdin).readBinToEnd
      pure bytes.toList
    else pure []
  let directory : Directory :=
    { files := source.files ++ input.files
      directories := source.directories ++ input.directories }
  return (directory, stdin)

/-- The depth up to which programs are run. -/
def unlimited : Nat := 4611686018427387904

end TapeLang.Executable

open TapeLang TapeLang.Executable

/-- The command. -/
def main (arguments : List String) : IO UInt32 := do
  let (directory, stdin) ←
    match CommandLine.Arguments.ofList arguments with
    | .ok parsed => surroundings parsed
    | .error _ => pure ({ files := [] }, [])
  match CommandLine.run unlimited directory stdin arguments with
  | none => return 1
  | some result =>
    let stdout ← IO.getStdout
    stdout.write ⟨result.output⟩
    stdout.flush
    IO.eprint result.errors
    return UInt32.ofNat result.code
