import Mathlib.Data.List.Nodup
import Mathlib.Tactic.Common
import TapeLang.CommandLine.Arguments
import TapeLang.Proofs.Text.Integer

/-!
# Command lines in any order

Each argument of a command line that names the file, or is a long option with its value joined on to it,
can be understood by itself.  Where every option is given once, such arguments mean the same in any
order.

* `Request` is what such an argument asks for, and `Request.text` how it is spelled.
* `classifyOne_text`: an argument is recognized for what it is, whatever value it carries.
* `take_requests`: going through the arguments does what they ask for, one after the other.
* **`Arguments.ofList_requests`**: the command line that results, for every order.
-/

namespace TapeLang.CommandLine

/-! ## Requests -/

/-- What a single argument asks for. -/
inductive Request where
  | file (name : String)
  | language (name : String)
  | memory (size : String)
  | input (name : String)
  | trace
  | maxSteps (limit : Int)
deriving DecidableEq, Repr

namespace Request

/-- The argument as it is spelled. -/
def text : Request → String
  | file name => name
  | language name => "--language=" ++ name
  | memory size => "--memory=" ++ size
  | input name => "--input=" ++ name
  | trace => "--trace"
  | maxSteps limit => "--max-steps=" ++ toString limit

/-- The option that the argument gives; the file is no option. -/
def switch? : Request → Option Switch
  | file _ => none
  | language _ => some .language
  | memory _ => some .memory
  | input _ => some .input
  | trace => some .trace
  | maxSteps _ => some .maxSteps

/-- What the argument is recognized as. -/
def argument : Request → Argument
  | file name => .word name
  | language name => .option .language true (some ⟨true, name.toList⟩)
  | memory size => .option .memory true (some ⟨true, size.toList⟩)
  | input name => .option .input true (some ⟨true, name.toList⟩)
  | trace => .option .trace true none
  | maxSteps limit => .option .maxSteps true (some ⟨true, (toString limit).toList⟩)

/-- What has been asked for, together with the request. -/
def apply (usage : Usage) : Request → Usage
  | file name => { usage with file := some name }
  | language name => { usage with language := name }
  | memory size => { usage with memory := size }
  | input name => { usage with input := some name }
  | trace => { usage with trace := true }
  | maxSteps limit => { usage with maxSteps := some limit }

/-- Whether the argument can be told from an option. -/
def Clear : Request → Prop
  | file name => name.toList.head? ≠ some '-'
  | _ => True

/-- Requests for different things can be made in any order. -/
lemma apply_comm {first second : Request} (h : first.switch? ≠ second.switch?) (usage : Usage) :
    second.apply (first.apply usage) = first.apply (second.apply usage) := by
  cases first <;> cases second <;> simp [switch?, apply] at h ⊢

end Request

/-! ## Recognizing an argument -/

lemma spellings_dashed : ∀ entry ∈ Switch.spellings,
    '=' ∉ entry.1.toList ∧ Switch.ofSpelling? entry.1.toList = some entry.2 ∧
      entry.1.toList.head? = some '-' ∧ 2 ≤ entry.1.toList.length := by
  decide

lemma ofSpelling?_eq_none {text : List Char} (h : '=' ∈ text) : Switch.ofSpelling? text = none := by
  rw [Switch.ofSpelling?, Option.map_eq_none_iff, List.find?_eq_none]
  intro entry hentry heq
  exact (spellings_dashed entry hentry).1 (beq_iff_eq.mp heq ▸ h)

lemma splitEquals_append {name : List Char} (h : '=' ∉ name) (value : List Char) :
    splitEquals (name ++ '=' :: value) = (name, some ⟨true, value⟩) := by
  have hname : ∀ c ∈ name, decide (c ≠ '=') = true := by
    intro c hc
    exact decide_eq_true fun heq => h (heq ▸ hc)
  have hdrop : (name ++ '=' :: value).dropWhile (· ≠ '=') = '=' :: value := by
    rw [List.dropWhile_append_of_pos hname]
    rfl
  have htake : (name ++ '=' :: value).takeWhile (· ≠ '=') = name := by
    rw [List.takeWhile_append_of_pos hname]
    simp
  rw [splitEquals, hdrop, htake]

/-- **An option with its value joined on** is recognized, whatever the value is. -/
lemma classifyOne_joined (spelling : String) (option : Switch) (value : String)
    (h : (spelling, option) ∈ Switch.spellings) :
    classifyOne (spelling ++ "=" ++ value) =
      .ok (.option option (isLong spelling.toList) (some ⟨true, value.toList⟩)) := by
  obtain ⟨hequals, hoption, hdash, hlength⟩ := spellings_dashed _ h
  have htext : (spelling ++ "=" ++ value).toList = spelling.toList ++ '=' :: value.toList := by
    simp
  have hnone : Switch.ofSpelling? (spelling.toList ++ '=' :: value.toList) = none :=
    ofSpelling?_eq_none (by simp)
  obtain ⟨c, rest, hshape⟩ : ∃ c rest, spelling.toList = '-' :: c :: rest := by
    match hs : spelling.toList, hdash, hlength with
    | d :: c :: rest, hdash, _ => exact ⟨c, rest, by simpa using hdash⟩
  simp only [classifyOne, htext, hnone, splitEquals_append hequals, hoption]
  simp only [hshape, List.cons_append]

lemma classifyOne_word {name : String} (h : name.toList.head? ≠ some '-') :
    classifyOne name = .ok (.word name) := by
  rw [classifyOne]
  split
  · next hshape => simp [hshape] at h
  · rfl

lemma classifyOne_text {request : Request} (h : request.Clear) :
    classifyOne request.text = .ok request.argument := by
  cases request with
  | file name => exact classifyOne_word h
  | language name => exact classifyOne_joined "--language" .language name (by decide)
  | memory size => exact classifyOne_joined "--memory" .memory size (by decide)
  | input name => exact classifyOne_joined "--input" .input name (by decide)
  | trace => rfl
  | maxSteps limit => exact classifyOne_joined "--max-steps" .maxSteps (toString limit) (by decide)

lemma classify_texts {requests : List Request} (h : ∀ request ∈ requests, request.Clear) :
    classify (requests.map Request.text) = .ok (requests.map Request.argument) := by
  induction requests with
  | nil => rfl
  | cons request rest ih =>
    have hfirst := classifyOne_text (h request List.mem_cons_self)
    -- `--` alone would end the options; as an option it is ambiguous
    have hmark : request.text ≠ "--" := by
      intro heq
      have hambiguous : ∀ argument, classifyOne "--" ≠ .ok argument := by
        intro argument hok
        exact nomatch hok
      exact hambiguous _ (heq ▸ hfirst)
    rw [List.map_cons, classify, hfirst, ih fun r hr => h r (List.mem_cons_of_mem request hr)]
    · rfl
    · exact hmark

/-! ## Going through the arguments -/

/-- The next argument need not be a value. -/
def Expectation.Free : Expectation → Prop
  | .anything => True
  | .afterFile => True
  | .value _ _ => False

lemma take_joined {expected : Expectation} (hfree : expected.Free) {usage next : Usage}
    {option : Switch} {value : String} (hvalue : option.takesValue = true)
    (happly : usage.apply option value = .ok next) (rest : List Argument) :
    usage.take expected (.option option true (some ⟨true, value.toList⟩) :: rest) =
      next.take .anything rest := by
  cases expected with
  | value => exact absurd hfree id
  | anything => simp [Usage.take, clusterOf, hvalue, Usage.applyAll, happly]
  | afterFile => simp [Usage.take, clusterOf, hvalue, Usage.applyAll, happly]

/-- One request is met, whatever stands behind it. -/
lemma take_request {expected : Expectation} (hfree : expected.Free) {usage : Usage} {request : Request}
    (hfile : request.switch? = none → usage.file = none) (rest : List Argument) :
    ∃ next : Expectation, next.Free ∧
      usage.take expected (request.argument :: rest) = (request.apply usage).take next rest := by
  cases request with
  | file name =>
    have hnone : usage.file.isNone = true := by simp [hfile rfl]
    cases expected with
    | value => exact absurd hfree id
    | anything => exact ⟨.afterFile, trivial, if_pos hnone⟩
    | afterFile => exact ⟨.afterFile, trivial, if_pos hnone⟩
  | language name => exact ⟨.anything, trivial, take_joined hfree rfl rfl rest⟩
  | memory size => exact ⟨.anything, trivial, take_joined hfree rfl rfl rest⟩
  | input name => exact ⟨.anything, trivial, take_joined hfree rfl rfl rest⟩
  | trace =>
    cases expected with
    | value => exact absurd hfree id
    | anything => exact ⟨.anything, trivial, rfl⟩
    | afterFile => exact ⟨.anything, trivial, rfl⟩
  | maxSteps limit =>
    have happly : usage.apply .maxSteps (toString limit) = .ok { usage with maxSteps := some limit } := by
      simp only [Usage.apply, Text.integer?_toString]
    exact ⟨.anything, trivial, take_joined hfree rfl happly rest⟩

lemma file_apply {usage : Usage} {request : Request} (h : request.switch? ≠ none) :
    (request.apply usage).file = usage.file := by
  cases request with
  | file name => exact absurd rfl h
  | _ => rfl

/-- **All requests are met**, one after the other. -/
lemma take_requests {expected : Expectation} (hfree : expected.Free) {usage : Usage}
    {requests : List Request} (hdistinct : (requests.map Request.switch?).Nodup)
    (hfile : none ∈ requests.map Request.switch? → usage.file = none) :
    usage.take expected (requests.map Request.argument) = .ok (requests.foldl Request.apply usage) := by
  -- the file is still to be named as long as it is among the requests ahead
  induction requests generalizing usage expected with
  | nil =>
    cases expected with
    | value => exact absurd hfree id
    | anything => rfl
    | afterFile => rfl
  | cons request rest ih =>
    rw [List.map_cons, List.nodup_cons] at hdistinct
    obtain ⟨hnew, hdistinct⟩ := hdistinct
    have hfirst : request.switch? = none → usage.file = none :=
      fun hnone => hfile (hnone ▸ List.mem_cons_self)
    obtain ⟨next, hnext, htake⟩ := take_request hfree hfirst (rest.map Request.argument)
    rw [List.map_cons, htake, List.foldl_cons]
    refine ih hnext hdistinct fun hmem => ?_
    rw [file_apply fun hnone => hnew (hnone ▸ hmem)]
    exact hfile (List.mem_cons_of_mem _ hmem)

/-! ## The order of the arguments -/

lemma foldl_apply_perm {order requests : List Request} (hperm : order.Perm requests)
    (hdistinct : (order.map Request.switch?).Nodup) (usage : Usage) :
    order.foldl Request.apply usage = requests.foldl Request.apply usage := by
  refine hperm.foldl_eq' ?_ usage
  intro first hfirst second hsecond usage
  by_cases hsame : first.switch? = second.switch?
  · rw [List.inj_on_of_nodup_map hdistinct hfirst hsecond hsame]
  · exact Request.apply_comm hsame usage

/-- The command line that has been asked for. -/
def Usage.arguments (usage : Usage) (file : String) : Arguments :=
  { file
    language := usage.language
    memory := usage.memory
    input := usage.input
    trace := usage.trace
    maxSteps := usage.maxSteps
    verbose := usage.verbose }

lemma leftOver_foldl (requests : List Request) (usage : Usage) :
    (requests.foldl Request.apply usage).leftOver = usage.leftOver := by
  induction requests generalizing usage with
  | nil => rfl
  | cons request rest ih =>
    rw [List.foldl_cons, ih]
    cases request <;> rfl

/-- **The order of the arguments does not matter** if each is given once. -/
theorem Arguments.ofList_requests {order requests : List Request} (hperm : order.Perm requests)
    (hclear : ∀ request ∈ requests, request.Clear)
    (hdistinct : (requests.map Request.switch?).Nodup) {file : String}
    (hfile : (requests.foldl Request.apply {}).file = some file) :
    Arguments.ofList (order.map Request.text) =
      .ok ((requests.foldl Request.apply {}).arguments file) := by
  have hclear' : ∀ request ∈ order, request.Clear := fun r hr => hclear r (hperm.mem_iff.mp hr)
  have horder : (order.map Request.switch?).Nodup := (hperm.map _).nodup_iff.mpr hdistinct
  have hfree : Expectation.Free .anything := trivial
  have htake : ({} : Usage).take .anything (order.map Request.argument) =
      .ok (requests.foldl Request.apply {}) := by
    rw [take_requests hfree horder fun _ => rfl, foldl_apply_perm hperm horder]
  have hleft : (requests.foldl Request.apply {}).leftOver = [] := leftOver_foldl requests {}
  simp only [Arguments.ofList, classify_texts hclear', htake, hfile, hleft]
  rfl

end TapeLang.CommandLine
