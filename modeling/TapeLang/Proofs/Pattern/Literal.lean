import Mathlib.Tactic.Common
import TapeLang.Pattern.Read
import TapeLang.Pattern.Search

/-!
# Patterns for fixed texts

A fixed text becomes a pattern by putting a backslash in front of every character that could mean
something else.  Such a pattern is read as one test after the other, and what it matches is the text.

* `escaped` — the pattern of a text;
* `Reader.run_readSequence_literal` — the reader crosses the lexemes of such a pattern one by one,
  whatever it has read before;
* `Node.ofText_escaped` — the pattern is not faulty, and is read as `Node.literally`;
* `Node.run_literally` — the matcher goes on behind the text where it stands, and nowhere else;
* `Node.realAt?_literally`, `Node.matchesEmpty_literally` — what a search sees of that.
-/

namespace TapeLang.Pattern

/-! ## Escaping -/

/-- The characters that mean something else in some pattern. -/
def specials : List Char :=
  ['(', ')', '[', ']', '\x7b', '\x7d', '?', '*', '+', '-', '|', '^', '$', '\\', '.', '&', '~', '#', ' ',
    '\t', '\n', '\r', '\x0b', '\x0c']

/-- The pattern of a fixed text. -/
def escaped (text : List Char) : List Char :=
  text.flatMap fun c => if c ∈ specials then ['\\', c] else [c]

/-- The lexeme by which a character stands for itself. -/
def Lexeme.ofLiteral (c : Char) : Lexeme :=
  if c ∈ specials then .escape c else .char c

lemma Lexeme.ofLiteral_ne_dangling (c : Char) : Lexeme.ofLiteral c ≠ .dangling := by
  rw [ofLiteral]
  split_ifs <;> simp

lemma lexemes_escaped (text : List Char) : lexemes (escaped text) = text.map Lexeme.ofLiteral := by
  induction text with
  | nil => rfl
  | cons c rest ih =>
    rw [List.map_cons, ← ih, Lexeme.ofLiteral, escaped, List.flatMap_cons, ← escaped]
    split_ifs with hspecial
    · rfl
    · have hbackslash : c ≠ '\\' := by
        rintro rfl
        exact hspecial (by decide)
      rw [List.singleton_append, lexemes]
      · intro heq
        exact absurd heq hbackslash
      · intro d more heq
        exact absurd heq hbackslash

/-- The test for one character, case mattering. -/
def Node.literal (c : Char) : Node :=
  .char (.set (CharSet.single c.toNat) { ignoreCase := false, ascii := false })

/-- One test for each character of a text. -/
def Node.literally (text : List Char) : Node :=
  Node.sequence (text.map Node.literal)

/-! ## Reading -/

/-- No settings have been made, and nothing has to be checked at the end. -/
structure ReadState.Plain (state : ReadState) : Prop where
  flags_eq : state.flags = {}
  conditions_eq : state.conditions = []
  lookBehind_eq : state.variableLookBehind = false

namespace Reader

lemma run_bind_ok {α β : Type} {reader : Reader α} {next : α → Reader β} {state after : ReadState} {a : α}
    (h : reader.run state = .ok (a, after)) : (reader >>= next).run state = (next a).run after := by
  rw [StateT.run_bind, h]
  rfl

lemma run_get (state : ReadState) : (get : Reader ReadState).run state = .ok (state, state) := rfl

lemma run_peek? (state : ReadState) : peek?.run state = .ok (state.rest.head?, state) := rfl

lemma run_take? {state : ReadState} {lexeme : Lexeme} {rest : List Lexeme} (hplain : state.Plain)
    (hrest : state.rest = lexeme :: rest) (hview : rest.head? ≠ some .dangling) :
    ∃ after, take?.run state = .ok (some lexeme, after) ∧ after.Plain ∧ after.rest = rest := by
  obtain ⟨ahead, pos, flags, names, widths, lookBehind, conditions, variableLookBehind⟩ := state
  obtain rfl : ahead = lexeme :: rest := hrest
  refine ⟨⟨rest, pos + lexeme.length, flags, names, widths, lookBehind, conditions,
    variableLookBehind⟩, ?_, ⟨hplain.flags_eq, hplain.conditions_eq, hplain.lookBehind_eq⟩, rfl⟩
  cases rest with
  | nil => rfl
  | cons next more =>
    cases next with
    | char d => rfl
    | escape d => rfl
    | dangling => exact absurd rfl hview

lemma run_literal {state : ReadState} (hplain : state.Plain) (c : Char) :
    (literal c.toNat).run state = .ok (Node.literal c, state) := by
  have hmode : state.flags.caseMode = { ignoreCase := false, ascii := false } := by
    rw [hplain.flags_eq]
    rfl
  rw [literal, run_bind_ok (run_get state), hmode]
  rfl

/-- A special character behind a backslash stands for itself. -/
lemma run_escape {state : ReadState} (hplain : state.Plain) {c : Char} (hspecial : c ∈ specials) :
    (escape c).run state = .ok (Node.literal c, state) := by
  rw [← run_literal hplain c]
  simp only [specials, List.mem_cons, List.not_mem_nil, or_false] at hspecial
  rcases hspecial with rfl | rfl | rfl | rfl | rfl | rfl | rfl | rfl | rfl | rfl | rfl | rfl | rfl |
    rfl | rfl | rfl | rfl | rfl | rfl | rfl | rfl | rfl | rfl | rfl <;> rfl

lemma run_readSequence_nil {state : ReadState} (hrest : state.rest = []) (bound : Nat) (top : Bool)
    (latest : List Piece) :
    (readSequence (bound + 1) top latest).run state = .ok (inOrder latest, state) := by
  rw [readSequence, run_bind_ok (run_peek? state), hrest]
  rfl

/-- One character, escaped or not, is one test more. -/
lemma run_readSequence_cons {state : ReadState} {c : Char} {rest : List Lexeme} (hplain : state.Plain)
    (hrest : state.rest = Lexeme.ofLiteral c :: rest) (hview : rest.head? ≠ some .dangling)
    (bound : Nat) (top : Bool) (latest : List Piece) :
    ∃ after : ReadState, after.Plain ∧ after.rest = rest ∧
      (readSequence (bound + 1) top latest).run state =
        (readSequence bound top (⟨Node.literal c, false⟩ :: latest)).run after := by
  obtain ⟨after, htake, hafter, hrest'⟩ := run_take? hplain hrest hview
  refine ⟨after, hafter, hrest', ?_⟩
  rw [readSequence, run_bind_ok (run_peek? state), hrest, List.head?_cons]
  by_cases hspecial : c ∈ specials
  · rw [Lexeme.ofLiteral, if_pos hspecial] at htake ⊢
    simp only
    rw [run_bind_ok htake, run_bind_ok (run_get after), run_bind_ok (run_escape hafter hspecial)]
  · -- what is not special is none of the characters that the reader asks for
    have hother : ∀ d ∈ specials, c ≠ d := by
      rintro d hd rfl
      exact hspecial hd
    have htimes : ¬ (c == '?' || c == '*' || c == '+' || c == '\x7b') := by
      simp [hother '?' (by decide), hother '*' (by decide), hother '+' (by decide),
        hother '\x7b' (by decide)]
    rw [Lexeme.ofLiteral, if_neg hspecial] at htake ⊢
    split
    case h_1 heq => simp at heq
    case h_2 heq =>
      cases heq
      exact (hother '|' (by decide) rfl).elim
    case h_3 heq =>
      cases heq
      exact (hother ')' (by decide) rfl).elim
    case h_4 heq =>
      cases heq
      rw [run_bind_ok htake, run_bind_ok (run_get after)]
      simp only [hafter.flags_eq, Bool.false_and, Bool.false_eq_true, if_false, if_neg htimes]
      split
      case h_6 => rw [run_bind_ok (run_literal hafter c)]
      all_goals exact (hother _ (by decide) rfl).elim

/-- **The reader crosses escaped characters** one by one, whatever it has read before. -/
lemma run_readSequence_literal {state : ReadState} {text : List Char} (hplain : state.Plain)
    (hrest : state.rest = text.map Lexeme.ofLiteral) {bound : Nat} (hbound : text.length < bound)
    (top : Bool) (latest : List Piece) :
    ∃ after : ReadState, after.Plain ∧ after.rest = [] ∧
      (readSequence bound top latest).run state =
        .ok (inOrder ((text.map fun c => ⟨Node.literal c, false⟩).reverse ++ latest), after) := by
  induction text generalizing state bound latest with
  | nil =>
    obtain ⟨bound, rfl⟩ : ∃ smaller, bound = smaller + 1 := ⟨bound - 1, by omega⟩
    exact ⟨state, hplain, hrest, run_readSequence_nil hrest bound top latest⟩
  | cons c more ih =>
    obtain ⟨bound, rfl⟩ : ∃ smaller, bound = smaller + 1 := ⟨bound - 1, by omega⟩
    have hview : (more.map Lexeme.ofLiteral).head? ≠ some .dangling := by
      cases more with
      | nil => simp
      | cons d rest => simp [Lexeme.ofLiteral_ne_dangling]
    have hsmaller : more.length < bound := Nat.lt_of_succ_lt_succ hbound
    obtain ⟨next, hnext, hrest', hstep⟩ :=
      run_readSequence_cons hplain hrest hview bound top latest
    obtain ⟨after, hafter, hend, hrun⟩ :=
      ih hnext hrest' hsmaller (⟨Node.literal c, false⟩ :: latest)
    refine ⟨after, hafter, hend, ?_⟩
    rw [hstep, hrun, List.map_cons, List.reverse_cons, List.append_assoc]
    rfl

lemma inOrder_literal (text : List Char) :
    inOrder (text.map fun c => ⟨Node.literal c, false⟩).reverse = Node.literally text := by
  rw [inOrder, List.reverse_reverse, List.map_map]
  rfl

lemma run_whole_literal {state : ReadState} {text : List Char} (hplain : state.Plain)
    (hrest : state.rest = text.map Lexeme.ofLiteral) :
    ∃ after, whole.run state = .ok (Node.literally text, after) := by
  have hview : checkView.run state = .ok ((), state) := by
    rw [checkView, run_bind_ok (run_get state), hrest]
    cases text with
    | nil => rfl
    | cons c more =>
      rw [List.map_cons, Lexeme.ofLiteral]
      split_ifs <;> rfl
  have hbound : text.length < 4 * state.rest.length + 3 := by
    rw [hrest, List.length_map]
    omega
  obtain ⟨after, hafter, hend, hsequence⟩ := run_readSequence_literal hplain hrest hbound true []
  rw [List.append_nil, inOrder_literal] at hsequence
  have haccept : (accept '|').run after = .ok (false, after) := by
    rw [accept, run_bind_ok (run_peek? after), hend]
    rfl
  have hchoice : (readChoice (4 * state.rest.length + 4) true []).run state =
      .ok (Node.literally text, after) := by
    rw [readChoice]
    simp only [List.isEmpty_nil, Bool.and_true]
    rw [run_bind_ok hsequence, run_bind_ok haccept]
    rfl
  -- nothing is left to read, and none of the checks at the end finds anything
  obtain ⟨rest, pos, flags, names, widths, lookBehind, conditions, variableLookBehind⟩ := after
  obtain rfl : rest = [] := hend
  obtain rfl : flags = {} := hafter.flags_eq
  obtain rfl : conditions = [] := hafter.conditions_eq
  obtain rfl : variableLookBehind = false := hafter.lookBehind_eq
  rw [whole, run_bind_ok hview, run_bind_ok (run_get state), run_bind_ok hchoice]
  exact ⟨_, rfl⟩

end Reader

/-- **The pattern of a fixed text** is not faulty, and is read as a test for each of its characters. -/
theorem Node.ofText_escaped (text : List Char) :
    Node.ofText (escaped text) = .ok (Node.literally text) := by
  have hplain : ReadState.Plain { rest := lexemes (escaped text), pos := 0 } := ⟨rfl, rfl, rfl⟩
  obtain ⟨after, hwhole⟩ := Reader.run_whole_literal hplain (lexemes_escaped text)
  rw [Node.ofText, hwhole]

/-! ## Matching -/

namespace Node

lemma run_sequence_cons (node : Node) (more : List Node) (thread : Thread)
    (k : Thread → Option Thread) :
    (sequence (node :: more)).run thread k = node.run thread fun next => (sequence more).run next k := by
  cases more with
  | nil => rfl
  | cons next more => rfl

lemma accepts_literal (c d : Char) :
    CharTest.accepts (.set (CharSet.single c.toNat) { ignoreCase := false, ascii := false }) d =
      (c == d) := by
  have hcode : (d.toNat == c.toNat) = (c == d) := by
    rw [Bool.eq_iff_iff, beq_iff_eq, beq_iff_eq, Char.toNat_inj, eq_comm]
  simp [CharTest.accepts, CharSet.contains, CharSet.single, SetItem.holds, hcode]

/-- **A fixed text matches where it stands.**  The matcher goes on behind it, or not at all. -/
lemma run_literally (text before rest : List Char) (pos : Nat) (captures : List (Nat × List Char))
    (k : Thread → Option Thread) :
    (literally text).run ⟨⟨before, pos, rest⟩, captures⟩ k =
      if text.isPrefixOf rest then
        k ⟨⟨text.reverse ++ before, pos + text.length, rest.drop text.length⟩, captures⟩
      else none := by
  induction text generalizing before pos rest with
  | nil => rfl
  | cons c more ih =>
    rw [literally, List.map_cons, run_sequence_cons, ← literally]
    cases rest with
    | nil => rfl
    | cons d rest =>
      simp only [literal, run, accepts_literal, ih, List.isPrefixOf]
      by_cases h : c = d
      · subst h
        simp only [beq_self_eq_true, if_true, Bool.true_and, List.reverse_cons, List.append_assoc,
          List.singleton_append, List.length_cons, List.drop_succ_cons, Nat.add_assoc,
          Nat.add_comm 1 more.length]
      · simp [h]

variable {text : List Char}

lemma matchFrom_literally (focus : Focus) (mayEnd : Focus → Bool) :
    (literally text).matchFrom focus mayEnd =
      if text.isPrefixOf focus.rest &&
          mayEnd ⟨text.reverse ++ focus.before, focus.pos + text.length, focus.rest.drop text.length⟩ then
        some ⟨text.reverse ++ focus.before, focus.pos + text.length, focus.rest.drop text.length⟩
      else none := by
  rw [matchFrom, run_literally]
  by_cases hstarts : text.isPrefixOf focus.rest
  · simp only [hstarts, if_true, Bool.true_and]
    split_ifs <;> rfl
  · simp [hstarts]

/-- A search finds the text exactly where it starts. -/
lemma realAt?_literally (htext : text ≠ []) (focus : Focus) :
    (literally text).realAt? focus =
      if text.isPrefixOf focus.rest then some (focus.pos + text.length) else none := by
  have hends : (focus.pos + text.length != focus.pos) = true := by simpa using htext
  rw [realAt?, matchFrom_literally]
  simp only [hends, Bool.and_true]
  split_ifs <;> rfl

lemma matchesEmpty_literally (htext : text ≠ []) : (literally text).matchesEmpty = false := by
  have hstarts : ¬ text.isPrefixOf [] := by
    rwa [List.isPrefixOf_iff_prefix, List.prefix_nil]
  rw [matchesEmpty, matchFrom_literally]
  simp [Focus.start, hstarts]

end Node

end TapeLang.Pattern
