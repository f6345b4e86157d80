import TapeLang.Text.Integer
import TapeLang.Text.Quoted

/-!
# Command line arguments

The command line names one source file and any number of options.  Options may stand before and
behind the file.  A long option can be cut short as long as it is the only one that begins that way;
its value follows behind an equals sign or as the next argument.  Short options can be run together,
and a value can be joined on to the last of them.  Behind `--` nothing is an option.

* `classify` decides for each argument whether it is an option; this is where a shortened option is
  found to be ambiguous.
* `Usage.take` goes through the classified arguments from left to right.
* `Arguments.ofList` does both and checks that a file was named and that nothing is left over.
-/

namespace TapeLang.CommandLine

/-! ## Options -/

/-- The options. -/
inductive Switch where
  | help
  | language
  | memory
  | input
  | trace
  | maxSteps
  | verbose
deriving DecidableEq, Repr

namespace Switch

/-- The spellings of all options, in the order in which they are listed. -/
def spellings : List (String × Switch) :=
  [("-h", .help), ("--help", .help), ("--language", .language), ("-l", .language),
    ("--memory", .memory), ("-m", .memory), ("--input", .input), ("-i", .input),
    ("--trace", .trace), ("--max-steps", .maxSteps), ("--verbose", .verbose), ("-v", .verbose)]

/-- The spellings of one option, joined by slashes. -/
def title (option : Switch) : String :=
  String.intercalate "/" ((spellings.filter (·.2 = option)).map (·.1))

/-- Whether an option has a value. -/
def takesValue : Switch → Bool
  | .language | .memory | .input | .maxSteps => true
  | .help | .trace | .verbose => false

/-- The option with a given spelling. -/
def ofSpelling? (spelling : List Char) : Option Switch :=
  (spellings.find? fun entry => entry.1.toList == spelling).map (·.2)

end Switch

/-- What is wrong with a command line. -/
inductive UsageError where
  /-- No file is named. -/
  | noFile
  /-- These arguments have no meaning. -/
  | unrecognized (arguments : List String)
  /-- The value of an option is missing. -/
  | noValue (option : Switch)
  /-- An option without a value is given one. -/
  | unwantedValue (option : Switch) (value : String)
  /-- The value of an option is no integer. -/
  | notAnInteger (option : Switch) (value : String)
  /-- A shortened option has several meanings. -/
  | ambiguous (argument : String) (meanings : List String)
deriving DecidableEq, Repr

/-- The wording of each cause. -/
def UsageError.message : UsageError → String
  | .noFile => "the following arguments are required: file"
  | .unrecognized arguments => "unrecognized arguments: " ++ String.intercalate " " arguments
  | .noValue option => "argument " ++ option.title ++ ": expected one argument"
  | .unwantedValue option value =>
    "argument " ++ option.title ++ ": ignored explicit argument " ++ Text.quoted value
  | .notAnInteger option value =>
    "argument " ++ option.title ++ ": invalid int value: " ++ Text.quoted value
  | .ambiguous argument meanings =>
    "ambiguous option: " ++ argument ++ " could match " ++ String.intercalate ", " meanings

/-! ## Telling options from other arguments -/

/-- A value that is part of the argument that names its option. -/
structure Joined where
  /-- Whether an equals sign stands before the value. -/
  equals : Bool
  value : List Char
deriving DecidableEq, Repr

/-- What an argument is. -/
inductive Argument where
  /-- An argument that is no option. -/
  | word (text : String)
  /-- The mark behind which nothing is an option. -/
  | mark
  /-- An option with two dashes or with one, and perhaps a value. -/
  | option (option : Switch) (long : Bool) (joined : Option Joined)
  /-- Something that looks like an option and is none. -/
  | unknown (text : String)
deriving DecidableEq, Repr

/-- Splits a text at its first equals sign. -/
def splitEquals (text : List Char) : List Char × Option Joined :=
  match text.dropWhile (· ≠ '=') with
  | [] => (text, none)
  | _ :: value => (text.takeWhile (· ≠ '='), some ⟨true, value⟩)

/-- Whether a text is a sequence of at least one digit. -/
def allDigits (text : List Char) : Bool :=
  !text.isEmpty && text.all Text.isDecimal

/-- Whether a text is a negative number, with or without a decimal point.  A newline may end it. -/
def isNegativeNumber : List Char → Bool
  | '-' :: text =>
    let number := if text.getLast? = some '\n' then text.dropLast else text
    allDigits number ||
      match number.dropWhile Text.isDecimal with
      | '.' :: fraction => allDigits fraction
      | _ => false
  | _ => false

/-- What a text that starts with a dash is if it is not the spelling of an option. -/
def classifyDashed (text : List Char) : Except UsageError Argument :=
  let argument := String.ofList text
  let other : Argument :=
    if isNegativeNumber text || text.contains ' ' then .word argument else .unknown argument
  match text with
  | '-' :: '-' :: _ =>
    let (name, joined) := splitEquals text
    match Switch.spellings.filter fun entry => name.isPrefixOf entry.1.toList with
    | [] => .ok other
    | [(_, option)] => .ok (.option option true joined)
    | meanings => .error (.ambiguous argument (meanings.map (·.1)))
  | '-' :: c :: value =>
    match Switch.ofSpelling? ['-', c] with
    | some option => .ok (.option option false (some ⟨false, value⟩))
    | none => .ok other
  | _ => .ok (.word argument)

/-- Whether the spelling of an option has two dashes. -/
def isLong : List Char → Bool
  | '-' :: '-' :: _ => true
  | _ => false

/-- Decides what an argument before the mark is. -/
def classifyOne (argument : String) : Except UsageError Argument :=
  let text := argument.toList
  match text with
  | '-' :: _ :: _ =>
    match Switch.ofSpelling? text with
    | some option => .ok (.option option (isLong text) none)
    | none =>
      let (name, joined) := splitEquals text
      match joined, Switch.ofSpelling? name with
      | some joined, some option => .ok (.option option (isLong name) (some joined))
      | _, _ => classifyDashed text
  | _ => .ok (.word argument)

/-- Decides what the arguments are. -/
def classify : List String → Except UsageError (List Argument)
  | [] => .ok []
  | "--" :: rest => .ok (.mark :: rest.map Argument.word)
  | argument :: rest =>
    match classifyOne argument with
    | .error e => .error e
    | .ok first =>
      match classify rest with
      | .error e => .error e
      | .ok more => .ok (first :: more)

/-! ## Going through the arguments -/

/-- What has been asked for so far. -/
structure Usage where
  file : Option String := none
  language : String := "bf"
  memory : String := "30000"
  input : Option String := none
  trace : Bool := false
  maxSteps : Option Int := none
  verbose : Bool := false
  /-- The arguments without a meaning. -/
  leftOver : List String := []
deriving DecidableEq, Repr

/-- Why going through the arguments ended early. -/
inductive Stop where
  | help
  | usage (e : UsageError)
deriving DecidableEq, Repr

namespace Usage

/-- Sets aside an argument without a meaning. -/
def setAside (usage : Usage) (argument : String) : Usage :=
  { usage with leftOver := usage.leftOver ++ [argument] }

/-- Does what an option says. -/
def apply (usage : Usage) (option : Switch) (value : String) : Except Stop Usage :=
  match option with
  | .help => .error .help
  | .language => .ok { usage with language := value }
  | .memory => .ok { usage with memory := value }
  | .input => .ok { usage with input := some value }
  | .trace => .ok { usage with trace := true }
  | .verbose => .ok { usage with verbose := true }
  | .maxSteps =>
    match Text.integer? value.toList with
    | some steps => .ok { usage with maxSteps := some steps }
    | none => .error (.usage (.notAnInteger option value))

/-- Does what several options say, one after the other. -/
def applyAll (usage : Usage) : List (Switch × String) → Except Stop Usage
  | [] => .ok usage
  | (option, value) :: more =>
    match usage.apply option value with
    | .error stop => .error stop
    | .ok usage => usage.applyAll more

end Usage

/-- Short options that were run together, unravelled. -/
structure Cluster where
  /-- The options that are complete, with their values. -/
  options : List (Switch × String) := []
  /-- An option whose value has to be the next argument. -/
  waiting : Option Switch := none
  /-- What is no option, with a dash in front. -/
  leftOver : Option String := none
deriving DecidableEq, Repr

/-- Puts an option in front of a cluster. -/
def Cluster.push (cluster : Cluster) (option : Switch) : Cluster :=
  { cluster with options := (option, "") :: cluster.options }

/-- Unravels the characters behind a short option.  An equals sign joins a value to the option before
it, which an option without a value refuses. -/
def unravel (option : Switch) : List Char → Except UsageError Cluster
  | [] =>
    .ok (if option.takesValue then { waiting := some option } else { options := [(option, "")] })
  | c :: rest =>
    if option.takesValue then .ok { options := [(option, String.ofList (c :: rest))] }
    else if c = '-' then .error (.unwantedValue option (String.ofList (c :: rest)))
    else
      match Switch.ofSpelling? ['-', c] with
      | none =>
        .ok { options := [(option, "")], leftOver := some (String.ofList ('-' :: c :: rest)) }
      | some next =>
        if rest.head? = some '=' then
          let value := String.ofList rest.tail
          if next.takesValue then .ok { options := [(option, ""), (next, value)] }
          else .error (.unwantedValue next value)
        else
          match unravel next rest with
          | .error e => .error e
          | .ok cluster => .ok (cluster.push option)

/-- What an argument that is an option asks for. -/
def clusterOf (option : Switch) (long : Bool) (joined : Option Joined) :
    Except UsageError Cluster :=
  match joined with
  | none => unravel option []
  | some ⟨equals, value⟩ =>
    if option.takesValue then .ok { options := [(option, String.ofList value)] }
    else if long || equals || value.isEmpty then
      .error (.unwantedValue option (String.ofList value))
    else unravel option value

/-- What the next argument may be. -/
inductive Expectation where
  /-- Anything. -/
  | anything
  /-- Anything; the file has just been named, and a mark next to it means nothing else. -/
  | afterFile
  /-- The value of an option, to be applied after others that were run together with it. -/
  | value (earlier : List (Switch × String)) (option : Switch)
deriving DecidableEq, Repr

/-- Goes through classified arguments.  The first word names the file, and the mark belongs to the
word next to it. -/
def Usage.take (usage : Usage) : Expectation → List Argument → Except Stop Usage
  | .value _ option, [] => .error (.usage (.noValue option))
  | _, [] => .ok usage
  | .value earlier option, .word value :: rest =>
    match usage.applyAll (earlier ++ [(option, value)]) with
    | .error stop => .error stop
    | .ok usage => usage.take .anything rest
  | .value _ option, _ :: _ => .error (.usage (.noValue option))
  | .afterFile, .mark :: rest => usage.take .anything rest
  | .anything, .mark :: rest =>
    if usage.file.isNone && !rest.isEmpty then usage.take .anything rest
    else (usage.setAside "--").take .anything rest
  | _, .word text :: rest =>
    if usage.file.isNone then { usage with file := some text }.take .afterFile rest
    else (usage.setAside text).take .anything rest
  | _, .unknown text :: rest => (usage.setAside text).take .anything rest
  | _, .option option long joined :: rest =>
    match clusterOf option long joined with
    | .error e => .error (.usage e)
    | .ok cluster =>
      match cluster.waiting with
      | some last => usage.take (.value cluster.options last) rest
      | none =>
        match usage.applyAll cluster.options with
        | .error stop => .error stop
        | .ok usage => (cluster.leftOver.elim usage usage.setAside).take .anything rest

/-! ## The result -/

/-- What the command line asks for. -/
structure Arguments where
  file : String
  language : String
  memory : String
  /-- The file to take the program's input from. -/
  input : Option String
  trace : Bool
  maxSteps : Option Int
  verbose : Bool
deriving DecidableEq, Repr

/-- Reads the command line. -/
def Arguments.ofList (arguments : List String) : Except Stop Arguments :=
  match classify arguments with
  | .error e => .error (.usage e)
  | .ok classified =>
    match ({} : Usage).take .anything classified with
    | .error stop => .error stop
    | .ok usage =>
      match usage.file, usage.leftOver with
      | none, _ => .error (.usage .noFile)
      | some _, leftOver@(_ :: _) => .error (.usage (.unrecognized leftOver))
      | some file, [] =>
        .ok
          { file
            language := usage.language
            memory := usage.memory
            input := usage.input
            trace := usage.trace
            maxSteps := usage.maxSteps
            verbose := usage.verbose }

end TapeLang.CommandLine
