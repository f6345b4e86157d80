import TapeLang.CommandLine
import TapeLang.Proofs.CommandLine.Requests
import TapeLang.Proofs.Machine.Tracing

/-!
# The command does what running a file does

The command reads its files, its options and its input by itself, and has two ways to run a program.
Where it is given a file, a language, a size of the tape and an input that there are, it ends as
`runFile` does, with an exit code in place of a result.

* `Call`: such a command, with the files of the directory.
* `Result.seen`, `ending`: exit code and output, of a command and of running a file.
* `seen_runPlain`, `seen_runTraced`: the two ways to run a program, told by what they leave.
* **`agrees_with_runFile`**: the command line agrees with `runFile`; to trace does not change what is
  seen, and a limit cuts the output off.
-/

namespace TapeLang.CommandLine

/-! ## What is seen of a run -/

/-- The exit code and the output of a command. -/
def Result.seen (result : Result) : Nat × Array UInt8 :=
  (result.code, result.output)

/-- The exit code for how a run ended. -/
def exitCode {ε : Type} : Except ε Unit → Nat
  | .ok () => 0
  | .error _ => 1

/-- The exit code and the output that belong to how running a file ended.  Nothing is written unless
the program runs. -/
def ending : Except RunFileError RunResult → Nat × Array UInt8
  | .ok result => (0, result.output)
  | .error (.run (.fault _ output)) => (1, output)
  | .error _ => (1, #[])

lemma seen_runPlain (depth : Nat) (verbose : Bool) (log : String) (program : Program)
    (machine : Machine) :
    (runPlain depth verbose log program machine).map Result.seen =
      (Machine.run depth program machine).map fun outcome =>
        (exitCode outcome.1, outcome.2.sink.written) := by
  rw [runPlain]
  rcases Machine.run depth program machine with _ | ⟨fault | ⟨⟩, after⟩ <;> rfl

lemma seen_runTraced (depth : Nat) (verbose : Bool) (limit : Option Int) (log : String)
    (program : Program) (machine : Machine) :
    (runTraced depth verbose limit log program machine).map Result.seen =
      ((Stepper.init program machine).trace limit standardRadius depth).map fun traced =>
        (exitCode traced.result, traced.stepper.machine.sink.written) := by
  rw [runTraced]
  rcases (Stepper.init program machine).trace limit standardRadius depth with
    _ | ⟨events, e | ⟨⟩, stepper⟩ <;> rfl

/-! ## Calls -/

/-- A call of the command that can be carried out: the name of the file is not taken for an option, the
language and the size of the tape exist, and there is an input.  The file itself may be anything, also
one that cannot be read. -/
structure Call (directory : Directory) where
  file : String
  languageName : String
  sizeText : String
  inputFile : String
  language : Language
  policy : Policy
  input : List UInt8
  undashed : file.toList.head? ≠ some '-'
  known : Language.ofName languageName = .ok language
  valid : Policy.ofText sizeText = .ok policy
  named : inputFile ≠ ""
  given : directory.read inputFile = .ok input

namespace Call

variable {directory : Directory} (call : Call directory) {depth : Nat} {stdin : List UInt8}

/-- The arguments of the call. -/
def requests : List Request :=
  [.file call.file, .language call.languageName, .memory call.sizeText, .input call.inputFile]

def options : RunOptions :=
  { language := call.languageName, policy := call.policy }

def machine : Machine :=
  Machine.init call.policy { pending := call.input } {}

def arguments (trace : Bool) (limit : Option Int) : Arguments :=
  { file := call.file
    language := call.languageName
    memory := call.sizeText
    input := some call.inputFile
    trace
    maxSteps := limit
    verbose := false }

/-- The arguments of the call and some more are read in any order. -/
lemma run_eq_execute {order extra : List Request} {trace : Bool} {limit : Option Int}
    (hperm : order.Perm (extra ++ call.requests)) (hclear : ∀ request ∈ extra, request.Clear)
    (hdistinct : ((extra ++ call.requests).map Request.switch?).Nodup)
    (hextra : extra.foldl Request.apply {} = { trace, maxSteps := limit }) :
    run depth directory stdin (order.map Request.text) =
      execute depth directory stdin (call.arguments trace limit) := by
  have hrequests : ∀ request ∈ call.requests, request.Clear := by
    simp only [requests, List.forall_mem_cons]
    exact ⟨call.undashed, trivial, trivial, trivial, by simp⟩
  have hall : ∀ request ∈ extra ++ call.requests, request.Clear :=
    List.forall_mem_append.mpr ⟨hclear, hrequests⟩
  have hfold : (extra ++ call.requests).foldl Request.apply {} =
      call.requests.foldl Request.apply { trace, maxSteps := limit } := by
    rw [List.foldl_append, hextra]
  have hfile : ((extra ++ call.requests).foldl Request.apply {}).file = some call.file := by
    rw [hfold]
    rfl
  rw [run, Arguments.ofList_requests hperm hall hdistinct hfile, hfold]
  rfl

lemma run_plain {order : List Request} (h : order.Perm call.requests) :
    run depth directory stdin (order.map Request.text) =
      execute depth directory stdin (call.arguments false none) := by
  have hperm : order.Perm ([] ++ call.requests) := h
  exact call.run_eq_execute hperm (by simp) (by simp [requests, Request.switch?]) rfl

lemma run_traced {order : List Request} (h : order.Perm (.trace :: call.requests)) :
    run depth directory stdin (order.map Request.text) =
      execute depth directory stdin (call.arguments true none) := by
  have hperm : order.Perm ([.trace] ++ call.requests) := h
  exact call.run_eq_execute hperm (by simp [Request.Clear]) (by simp [requests, Request.switch?]) rfl

lemma run_limited {order : List Request} {limit : Int}
    (h : order.Perm (.trace :: .maxSteps limit :: call.requests)) :
    run depth directory stdin (order.map Request.text) =
      execute depth directory stdin (call.arguments true (some limit)) := by
  have hperm : order.Perm ([.trace, .maxSteps limit] ++ call.requests) := h
  exact call.run_eq_execute hperm (by simp [Request.Clear]) (by simp [requests, Request.switch?]) rfl

/-! ## Refusing and running -/

/-- What running a file gives for how the program ended. -/
def ran : Except Fault Unit × Machine → Except RunFileError RunResult
  | (.ok (), after) => .ok { output := after.sink.written, pointer := after.pointer }
  | (.error fault, after) => .error (.run (.fault fault after.sink.written))

lemma ending_ran (outcome : Except Fault Unit × Machine) :
    ending (ran outcome) = (exitCode outcome.1, outcome.2.sink.written) := by
  obtain ⟨fault | ⟨⟩, after⟩ := outcome <;> rfl

/-- The command comes to its program by the same steps as `runFile`. -/
lemma execute_eq (trace : Bool) (limit : Option Int) :
    execute depth directory stdin (call.arguments trace limit) =
      match directory.readText .utf8 call.file with
      | .error e => some (.failed 1 (unreadable call.file e.message))
      | .ok source =>
        match call.language.lexer.parse source with
        | .error e => some (.failed 1 (readReport source e))
        | .ok program =>
          if trace then
            runTraced depth false limit (parsedLine false program source) program call.machine
          else runPlain depth false (parsedLine false program source) program call.machine := by
  have hfile : call.file ≠ standardInput := by
    intro heq
    exact call.undashed (by rw [heq]; rfl)
  have hinput : readInput directory stdin (call.arguments trace limit) = .ok call.input := by
    simp only [readInput, arguments, call.named, if_false, call.given]
  simp only [execute, hinput]
  simp only [arguments, call.valid, call.known, hfile, false_and, if_false, readSource]
  rfl

/-- **A call is refused or it runs a program**, on the command line as by `runFile`. -/
lemma refused_or_runs (stdin : List UInt8) :
    (∃ e errors, ending (.error e) = (1, #[]) ∧ ∀ depth,
      runFile depth call.options directory .utf8 call.file call.input = some (.error e) ∧
      ∀ trace limit,
        execute depth directory stdin (call.arguments trace limit) = some (.failed 1 errors)) ∨
    ∃ program log, ∀ depth,
      runFile depth call.options directory .utf8 call.file call.input =
        (Machine.run depth program call.machine).map ran ∧
      ∀ trace limit, execute depth directory stdin (call.arguments trace limit) =
        if trace then runTraced depth false limit log program call.machine
        else runPlain depth false log program call.machine := by
  simp only [execute_eq, runFile, runText, parseText, options, call.known]
  rcases hsource : directory.readText .utf8 call.file with e | source
  · -- the file is missing or no text
    exact .inl ⟨.file e, _, rfl, fun depth => ⟨rfl, fun _ _ => rfl⟩⟩
  · rcases hparse : call.language.lexer.parse source with e | program
    · -- the text is no program
      refine .inl ⟨.run (.source e), readReport source e, rfl, fun depth => ?_⟩
      simp only [hparse]
      exact ⟨trivial, fun _ _ => trivial⟩
    · refine .inr ⟨program, parsedLine false program source, fun depth => ?_⟩
      simp only [hparse]
      refine ⟨?_, fun _ _ => trivial⟩
      have hmachine : Machine.init call.policy { pending := call.input } {} = call.machine := rfl
      rw [hmachine]
      rcases Machine.run depth program call.machine with _ | ⟨fault | ⟨⟩, after⟩ <;> rfl

end Call

/-! ## Tracing -/

section Tracing

variable {program : Program} {machine : Machine} {log : String} {limit : Int}

/-- A traced run is seen as the plain one. -/
lemma seen_traced_iff (log : String) (program : Program) (machine : Machine) (seen : Nat × Array UInt8) :
    (∃ depth, (runTraced depth false none log program machine).map Result.seen = some seen) ↔
      ∃ depth, (runPlain depth false log program machine).map Result.seen = some seen := by
  simp only [seen_runTraced, seen_runPlain, Option.map_eq_some_iff]
  constructor
  · rintro ⟨depth, traced, htrace, rfl⟩
    obtain ⟨outcome, ⟨depth', hrun⟩, hresult⟩ :=
      (Stepper.exists_trace_none_iff program machine traced.stepper.machine standardRadius _).mp
        ⟨depth, traced, htrace, rfl, rfl⟩
    refine ⟨depth', _, hrun, ?_⟩
    rw [hresult]
    cases outcome <;> rfl
  · rintro ⟨depth, ⟨outcome, after⟩, hrun, rfl⟩
    obtain ⟨depth', traced, htrace, hresult, rfl⟩ :=
      (Stepper.exists_trace_none_iff program machine after standardRadius _).mpr
        ⟨outcome, ⟨depth, hrun⟩, rfl⟩
    refine ⟨depth', traced, htrace, ?_⟩
    rw [hresult]
    cases outcome <;> rfl

/-- Under a limit a run always has an end. -/
lemma exists_runTraced (log : String) (program : Program) (machine : Machine) (limit : Int) :
    ∃ depth result, runTraced depth false (some limit) log program machine = some result := by
  have hfinite : min (allowance (some limit)) (Stepper.init program machine).lifetime < ⊤ :=
    lt_of_le_of_lt (min_le_left _ _) (ENat.natCast_lt_top _)
  obtain ⟨depth, traced, htrace⟩ :=
    (Stepper.exists_trace_init_iff program machine (some limit) standardRadius).mpr hfinite
  have hseen := seen_runTraced depth false (some limit) log program machine
  rw [htrace, Option.map_some] at hseen
  obtain ⟨result, hresult, -⟩ := Option.map_eq_some_iff.mp hseen
  exact ⟨depth, result, hresult⟩

/-- Under a limit a run writes the beginning of what it writes without. -/
lemma output_prefix {depth depth' : Nat} {result whole : Result}
    (h : runTraced depth false (some limit) log program machine = some result)
    (h' : runPlain depth' false log program machine = some whole) :
    result.output.toList <+: whole.output.toList := by
  have hseen := seen_runTraced depth false (some limit) log program machine
  have hseen' := seen_runPlain depth' false log program machine
  rw [h, Option.map_some, eq_comm, Option.map_eq_some_iff] at hseen
  rw [h', Option.map_some, eq_comm, Option.map_eq_some_iff] at hseen'
  obtain ⟨traced, htrace, hresult⟩ := hseen
  obtain ⟨⟨outcome, after⟩, hrun, hwhole⟩ := hseen'
  -- the plain run is a traced one as well, with no limit
  obtain ⟨bound, traced', htrace', -, rfl⟩ :=
    (Stepper.exists_trace_none_iff program machine after standardRadius _).mpr
      ⟨outcome, ⟨depth', hrun⟩, rfl⟩
  have htrack := Stepper.onTrack_init program machine
  obtain ⟨-, hwritten⟩ := htrack.trace_prefix le_top htrace htrace'
  rw [← (Prod.mk.inj hresult).2, ← (Prod.mk.inj hwhole).2]
  exact hwritten

/-- A limit that leaves room for the whole run changes nothing. -/
lemma runTraced_of_room {depth : Nat} (h : (depth : Int) ≤ limit) (log : String) (program : Program)
    (machine : Machine) :
    runTraced depth false (some limit) log program machine =
      runTraced depth false none log program machine := by
  have hroom : (((Stepper.init program machine).steps + depth : ℕ) : ℕ∞) ≤ allowance (some limit) := by
    have hsteps : (Stepper.init program machine).steps = 0 := rfl
    rw [hsteps, allowance, Nat.cast_le]
    omega
  rw [runTraced, runTraced, Stepper.trace_of_room hroom]

end Tracing

/-! ## The command as a whole -/

/-- **The command line agrees with running a file**, in whatever order its arguments are given.  Exit
code and output are those of `runFile`.  They stay the same when the run is traced.  With a limit the
command always comes to an end, its output is the beginning of the whole output, and nothing changes if
the limit leaves room for the run. -/
theorem agrees_with_runFile (directory : Directory) (stdin : List UInt8) (call : Call directory)
    (limit : Int) (plain traced cut : List Request) (hplain : plain.Perm call.requests)
    (htraced : traced.Perm (.trace :: call.requests))
    (hcut : cut.Perm (.trace :: .maxSteps limit :: call.requests)) :
    (∀ depth, (run depth directory stdin (plain.map Request.text)).map Result.seen =
      (runFile depth call.options directory .utf8 call.file call.input).map ending) ∧
    (∀ seen,
      (∃ depth, (run depth directory stdin (traced.map Request.text)).map Result.seen = some seen) ↔
        ∃ depth, (run depth directory stdin (plain.map Request.text)).map Result.seen = some seen) ∧
    (∃ depth result, run depth directory stdin (cut.map Request.text) = some result) ∧
    (∀ depth depth' result whole, run depth directory stdin (cut.map Request.text) = some result →
      run depth' directory stdin (plain.map Request.text) = some whole →
        result.output.toList <+: whole.output.toList) ∧
    ∀ depth : Nat, (depth : Int) ≤ limit →
      run depth directory stdin (cut.map Request.text) =
        run depth directory stdin (traced.map Request.text) := by
  simp only [call.run_plain hplain, call.run_traced htraced, call.run_limited hcut]
  obtain ⟨e, errors, hending, hrefused⟩ | ⟨program, log, hruns⟩ := call.refused_or_runs stdin
  · -- nothing of what is asked for besides the program comes into it
    have hsame : ∀ depth trace limit, execute depth directory stdin (call.arguments trace limit) =
        some (.failed 1 errors) := fun depth => (hrefused depth).2
    refine ⟨?_, ?_, ⟨0, _, hsame 0 true (some limit)⟩, ?_, ?_⟩
    · intro depth
      rw [hsame, (hrefused depth).1, Option.map_some, Option.map_some, hending]
      rfl
    · intro seen
      simp only [hsame]
    · intro depth depth' result whole hresult hwhole
      rw [hsame, Option.some.injEq] at hresult
      rw [← hresult]
      exact List.nil_prefix
    · intro depth hdepth
      rw [hsame, hsame]
  · have hplain : ∀ depth, execute depth directory stdin (call.arguments false none) =
        runPlain depth false log program call.machine := fun depth => (hruns depth).2 false none
    have htraced : ∀ depth limit, execute depth directory stdin (call.arguments true limit) =
        runTraced depth false limit log program call.machine := fun depth => (hruns depth).2 true
    simp only [hplain, htraced]
    refine ⟨?_, seen_traced_iff log program call.machine,
      exists_runTraced log program call.machine limit, ?_, ?_⟩
    · intro depth
      rw [seen_runPlain, (hruns depth).1, Option.map_map]
      congr 1
      funext outcome
      exact (Call.ending_ran outcome).symm
    · intro depth depth' result whole hresult hwhole
      exact output_prefix hresult hwhole
    · intro depth hdepth
      exact runTraced_of_room hdepth log program call.machine

/-- A program that writes a byte and then leaves a tape of one cell, and an empty input. -/
def leavingTape : Directory :=
  { files := [("leave.bf", [0x2b, 0x2e, 0x3c, 0x2e]), ("empty", [])] }

def leavingCall : Call leavingTape where
  file := "leave.bf"
  languageName := "BF"
  sizeText := "1"
  inputFile := "empty"
  language := .brainfuck
  policy := .fixed 1
  input := []
  undashed := by decide
  known := by decide
  valid := by decide
  named := by decide
  given := by decide

/-- Traced, and with its arguments in another order, it fails with the byte written. -/
theorem leaving_tape_agrees :
    ∃ depth, (run depth leavingTape [] ["--trace", "leave.bf", "--memory=1", "--input=empty",
      "--language=BF"]).map Result.seen = some (1, #[1]) := by
  let traced : List Request :=
    [.trace, .file "leave.bf", .memory "1", .input "empty", .language "BF"]
  have htraced : traced.Perm (.trace :: leavingCall.requests) := by decide
  obtain ⟨hplain, htrace, -⟩ :=
    agrees_with_runFile leavingTape [] leavingCall 1 _ traced _ (.refl _) htraced (.refl _)
  have hfile : (runFile 5 leavingCall.options leavingTape .utf8 leavingCall.file []).map ending =
      some (1, #[1]) := by
    decide +kernel
  exact (htrace _).mpr ⟨5, (hplain 5).trans hfile⟩

end TapeLang.CommandLine
