import TapeLang.Proofs.Lexer.Ook
import TapeLang.Proofs.Program.Acceptance

/-!
# From Ook! to Brainfuck

An Ook! text is translated by writing the Brainfuck symbol of each of its pairs of words.  The text and
its translation are the same program, or they are refused for the same reason: at the pair that closes a
loop too many and at its symbol, or at the end of either.

A text can also break a rule that Brainfuck does not have, by a pair without a meaning or by a word
without a partner.  Whichever comes first is its fault, unless a loop was closed too often before that.

* `Unopened`: the pair that closes a loop too many.
* `EndAlike`: a text and its translation come to the same.
* `fault`: which rule of Ook! is broken first.
* **`parse_translated`**: what becomes of a text, told from its words alone.
-/

namespace TapeLang.Ook

/-! ## Translating pairs -/

/-- The pair `Ook? Ook?`, which stands for no command. -/
def Pair.Meaningless (pair : Pair) : Prop :=
  pair.1.mark = .query ∧ pair.2.mark = .query

instance : DecidablePred Pair.Meaningless := fun pair =>
  inferInstanceAs (Decidable (pair.1.mark = .query ∧ pair.2.mark = .query))

lemma Pair.command?_eq_none_iff {pair : Pair} : pair.command? = none ↔ pair.Meaningless := by
  obtain ⟨⟨_, first⟩, ⟨_, second⟩⟩ := pair
  cases first <;> cases second <;> simp [command?, commandOf?, Meaningless]

lemma Pair.exists_command {pair : Pair} (h : ¬ pair.Meaningless) : ∃ kind, pair.command? = some kind :=
  Option.ne_none_iff_exists'.mp (mt command?_eq_none_iff.mp h)

/-- The commands of pairs. -/
def commands (pairs : List Pair) : List TokenKind :=
  pairs.filterMap Pair.command?

/-- The translation of pairs to Brainfuck. -/
def translation (pairs : List Pair) : String :=
  brainfuckText (commands pairs)

/-- The pairs in front of the first one without a meaning. -/
def meaningful (pairs : List Pair) : List Pair :=
  pairs.takeWhile fun pair => ¬ pair.Meaningless

/-- The first rule of Ook! that is broken, where one is: by a pair without a meaning, or else by a
word without a partner. -/
def fault (endPos : Nat) (pairs : List Pair) : ParseError :=
  match pairs.find? fun pair => pair.Meaningless with
  | some pair => pair.fault
  | none => oddFault endPos

/-- Behind the earlier pairs, all of whose loops are closed, the pair closes another one. -/
structure Unopened (pairs earlier : List Pair) (pair : Pair) : Prop where
  stands : ∃ later, pairs = earlier ++ pair :: later
  closed : openLoops 0 (commands earlier) = some 0
  tail : pair.command? = some .loopTail

/-- What an Ook! text and its translation come to.  The translation has one symbol for each pair, so the
position of a symbol is the number of pairs before it. -/
inductive EndAlike (pairs : List Pair) (endPos : Nat) :
    Except ReadFailure Program → Except ReadFailure Program → Prop
  /-- They are the same program. -/
  | program (program : Program) : EndAlike pairs endPos (.ok program) (.ok program)
  /-- Both close a loop that is not open, with the same pair. -/
  | unopened {earlier : List Pair} {pair : Pair} (h : Unopened pairs earlier pair) :
      EndAlike pairs endPos (.error (.source ⟨.unopenedLoop, pair.1.pos⟩))
        (.error (.source ⟨.unopenedLoop, earlier.length⟩))
  /-- Both end inside a loop. -/
  | unclosed : EndAlike pairs endPos (.error (.source ⟨.unclosedLoop, endPos⟩))
      (.error (.source ⟨.unclosedLoop, pairs.length⟩))

lemma commands_append (first second : List Pair) :
    commands (first ++ second) = commands first ++ commands second :=
  List.filterMap_append

lemma commands_cons {pair : Pair} {kind : TokenKind} (h : pair.command? = some kind)
    (more : List Pair) : commands (pair :: more) = kind :: commands more :=
  List.filterMap_cons_some h

lemma length_commands {pairs : List Pair} (h : ∀ pair ∈ pairs, ¬ pair.Meaningless) :
    (commands pairs).length = pairs.length := by
  induction pairs with
  | nil => rfl
  | cons pair more ih =>
    obtain ⟨hpair, hmore⟩ := List.forall_mem_cons.mp h
    obtain ⟨kind, hkind⟩ := Pair.exists_command hpair
    rw [commands_cons hkind, List.length_cons, List.length_cons, ih hmore]

lemma exists_unopened {pairs : List Pair} (h : openLoops 0 (commands pairs) = none) :
    ∃ earlier pair, Unopened pairs earlier pair := by
  obtain ⟨before, after, hcommands, hbefore⟩ := exists_tail_of_openLoops_eq_none h
  obtain ⟨first, others, rfl, rfl, hothers⟩ := List.filterMap_eq_append_iff.mp hcommands
  obtain ⟨skipped, pair, later, rfl, hskipped, htail, -⟩ := List.filterMap_eq_cons_iff.mp hothers
  -- pairs without a command do not count, so they may as well be among the earlier ones
  have hnothing : commands skipped = [] := List.filterMap_eq_nil_iff.mpr hskipped
  refine ⟨first ++ skipped, pair, ⟨later, ?_⟩, ?_, htail⟩
  · rw [List.append_assoc]
  · rw [commands_append, hnothing, List.append_nil]
    exact hbefore

/-- The pairs in front of a pair without a meaning, if there is one, are the meaningful ones. -/
lemma exists_meaningless (pairs : List Pair) :
    ((∀ pair ∈ pairs, ¬ pair.Meaningless) ∧ meaningful pairs = pairs) ∨
      ∃ bad later, pairs = meaningful pairs ++ bad :: later ∧ bad.Meaningless ∧
        pairs.find? (fun pair => pair.Meaningless) = some bad := by
  induction pairs with
  | nil => exact .inl ⟨by simp, rfl⟩
  | cons pair more ih =>
    by_cases hpair : pair.Meaningless
    · refine .inr ⟨pair, more, ?_, hpair, ?_⟩
      · simp [meaningful, hpair]
      · simp [hpair]
    · have hmeaningful : meaningful (pair :: more) = pair :: meaningful more := by
        simp [meaningful, hpair]
      rw [hmeaningful]
      obtain ⟨hmore, hall⟩ | ⟨bad, later, hmore, hbad, hfind⟩ := ih
      · exact .inl ⟨List.forall_mem_cons.mpr ⟨hpair, hmore⟩, by rw [hall]⟩
      · refine .inr ⟨bad, later, ?_, hbad, ?_⟩
        · rw [List.cons_append, ← hmore]
        · rw [List.find?_cons_of_neg (by simpa using hpair), hfind]

lemma not_meaningless_of_mem_meaningful {pairs : List Pair} :
    ∀ pair ∈ meaningful pairs, ¬ pair.Meaningless := by
  intro pair hpair
  simpa using List.all_eq_true.mp List.all_takeWhile pair hpair

/-! ## Tokens of pairs -/

/-- The tokens of pairs. -/
def tokens (text : List Char) (pairs : List Pair) : List Token :=
  pairs.filterMap fun pair => pair.command?.map (pair.token text)

lemma tokens_append (text : List Char) (first second : List Pair) :
    tokens text (first ++ second) = tokens text first ++ tokens text second :=
  List.filterMap_append

lemma tokens_cons {pair : Pair} {kind : TokenKind} (h : pair.command? = some kind)
    (text : List Char) (more : List Pair) :
    tokens text (pair :: more) = pair.token text kind :: tokens text more := by
  have htoken : pair.command?.map (pair.token text) = some (pair.token text kind) := by
    rw [h, Option.map_some]
  exact List.filterMap_cons_some htoken

lemma map_kind_tokens (text : List Char) (pairs : List Pair) :
    (tokens text pairs).map Token.kind = commands pairs := by
  rw [tokens, List.map_filterMap, commands]
  congr 1
  funext pair
  cases h : pair.command? with
  | none => rfl
  | some kind => rfl

lemma map_reading (text : List Char) {pairs : List Pair} (h : ∀ pair ∈ pairs, ¬ pair.Meaningless) :
    pairs.map (Pair.reading text) = (tokens text pairs).map .ok := by
  induction pairs with
  | nil => rfl
  | cons pair more ih =>
    obtain ⟨hpair, hmore⟩ := List.forall_mem_cons.mp h
    obtain ⟨kind, hkind⟩ := Pair.exists_command hpair
    rw [List.map_cons, ih hmore, tokens_cons hkind, List.map_cons, Pair.reading, hkind]

/-! ## The two readers -/

section

variable {pairs earlier : List Pair} {pair : Pair}

/-- Ook! blames the first word of the pair that closes a loop too many. -/
lemma Unopened.ook (h : Unopened pairs earlier pair) (text : List Char) (after : List Reading)
    (endPos : Nat) :
    Program.ofStream ⟨(tokens text pairs).map .ok ++ after, endPos⟩ =
      .error (.source ⟨.unopenedLoop, pair.1.pos⟩) := by
  obtain ⟨⟨later, rfl⟩, hclosed, htail⟩ := h
  have hunopened : TokenStream.Unopened
      ⟨(tokens text (earlier ++ pair :: later)).map .ok ++ after, endPos⟩
      (pair.token text .loopTail) := by
    refine ⟨tokens text earlier, (tokens text later).map .ok ++ after, ?_, ?_, rfl⟩
    · rw [tokens_append, tokens_cons htail, List.map_append, List.map_cons, List.append_assoc,
        List.cons_append]
    · rw [map_kind_tokens, hclosed]
  exact Program.ofStream_of_unopened hunopened

/-- Brainfuck blames the symbol of that pair. -/
lemma Unopened.brainfuck (h : Unopened pairs earlier pair)
    (hmeaning : ∀ pair ∈ pairs, ¬ pair.Meaningless) (endPos : Nat) :
    Program.ofStream ⟨(brainfuckTokens 0 (commands pairs)).map .ok, endPos⟩ =
      .error (.source ⟨.unopenedLoop, earlier.length⟩) := by
  obtain ⟨⟨later, rfl⟩, hclosed, htail⟩ := h
  have hearlier : (commands earlier).length = earlier.length :=
    length_commands fun pair hpair => hmeaning pair (List.mem_append_left _ hpair)
  have hunopened : TokenStream.Unopened
      ⟨(brainfuckTokens 0 (commands (earlier ++ pair :: later))).map .ok, endPos⟩
      { kind := .loopTail, text := String.ofList [brainfuckSymbol .loopTail], pos := earlier.length } := by
    refine ⟨brainfuckTokens 0 (commands earlier),
      (brainfuckTokens (earlier.length + 1) (commands later)).map .ok, ?_, ?_, rfl⟩
    · rw [commands_append, commands_cons htail, brainfuckTokens_append, brainfuckTokens,
        List.map_append, List.map_cons, Nat.zero_add, hearlier]
    · rw [map_kind_brainfuckTokens, hclosed]
  exact Program.ofStream_of_unopened hunopened

end

/-- Where every pair has a meaning, the loops of the commands decide both readers. -/
lemma endAlike_of_meaningful (text : List Char) {pairs : List Pair}
    (hmeaning : ∀ pair ∈ pairs, ¬ pair.Meaningless) (endPos : Nat) :
    EndAlike pairs endPos (Program.ofStream ⟨(tokens text pairs).map .ok, endPos⟩)
      (Program.ofStream
        ⟨(brainfuckTokens 0 (commands pairs)).map .ok, (commands pairs).length⟩) := by
  have hook := map_kind_tokens text pairs
  have hbrainfuck := map_kind_brainfuckTokens 0 (commands pairs)
  cases hloops : openLoops 0 (commands pairs) with
  | none =>
    obtain ⟨earlier, pair, h⟩ := exists_unopened hloops
    have hread := h.ook text [] endPos
    rw [List.append_nil] at hread
    rw [hread, h.brainfuck hmeaning]
    exact .unopened h
  | some loops =>
    cases loops with
    | zero =>
      obtain ⟨program, hspells⟩ := exists_spells_of_balanced hloops
      rw [Program.ofStream_of_spells rfl (hook.symm ▸ hspells),
        Program.ofStream_of_spells rfl (hbrainfuck.symm ▸ hspells)]
      exact .program program
    | succ loops =>
      rw [Program.ofStream_of_unclosed ⟨_, loops, rfl, hook.symm ▸ hloops⟩,
        Program.ofStream_of_unclosed ⟨_, loops, rfl, hbrainfuck.symm ▸ hloops⟩,
        length_commands hmeaning]
      exact .unclosed

/-- Where a rule of Ook! is broken, the meaningful pairs stand in front of that fault. -/
lemma exists_pending (text : List Char) (words : List Sighting)
    (h : ¬ (words.length % 2 = 0 ∧ ∀ pair ∈ pairUp words, ¬ pair.Meaningless)) :
    ∃ after, (pairUp words).map (Pair.reading text) ++ leftOver text.length words =
      (tokens text (meaningful (pairUp words))).map .ok ++
        .error (fault text.length (pairUp words)) :: after := by
  rw [← map_reading text not_meaningless_of_mem_meaningful]
  obtain ⟨hmeaning, hall⟩ | ⟨bad, later, hpairs, hbad, hfind⟩ := exists_meaningless (pairUp words)
  · -- every pair has a meaning, so it must be the last word that is at fault
    have hodd : ¬ words.length % 2 = 0 := fun heven => h ⟨heven, hmeaning⟩
    have hnone : (pairUp words).find? (fun pair => pair.Meaningless) = none := by
      simpa using hmeaning
    refine ⟨[], ?_⟩
    rw [hall, leftOver, if_neg hodd, fault, hnone]
  · have hreading : bad.reading text = .error bad.fault := by
      rw [Pair.reading, Pair.command?_eq_none_iff.mpr hbad]
    refine ⟨later.map (Pair.reading text) ++ leftOver text.length words, ?_⟩
    rw [fault, hfind]
    nth_rewrite 1 [hpairs]
    rw [List.map_append, List.map_cons, hreading, List.append_assoc, List.cons_append]

/-- **Ook! is Brainfuck in pairs of words.**  If the words of a text come in pairs that all have a
meaning, then the text is the same program as its translation, or both are refused for the same reason.
Otherwise the text is refused: for a loop that the pairs in front of the first fault close without
having opened it, or else for that fault. -/
theorem parse_translated (source : String) :
    let text := source.toList
    let words := sightings text
    let pairs := pairUp words
    if words.length % 2 = 0 ∧ ∀ pair ∈ pairs, ¬ pair.Meaningless then
      EndAlike pairs text.length (Language.ook.lexer.parse source)
        (Language.brainfuck.lexer.parse (translation pairs))
    else
      (∀ earlier pair, Unopened (meaningful pairs) earlier pair →
        Language.ook.lexer.parse source = .error (.source ⟨.unopenedLoop, pair.1.pos⟩)) ∧
      ((∀ earlier pair, ¬ Unopened (meaningful pairs) earlier pair) →
        Language.ook.lexer.parse source = .error (.source (fault text.length pairs))) := by
  intro text words pairs
  have hook : Language.ook.lexer.parse source =
      Program.ofStream ⟨pairs.map (Pair.reading text) ++ leftOver text.length words, text.length⟩ :=
    congrArg Program.ofStream (stream_eq_pairs source)
  have hbrainfuck : Language.brainfuck.lexer.parse (translation pairs) =
      Program.ofStream ⟨(brainfuckTokens 0 (commands pairs)).map .ok, (commands pairs).length⟩ :=
    congrArg Program.ofStream (brainfuck_stream (commands pairs))
  split
  · next hsound =>
    obtain ⟨heven, hmeaning⟩ := hsound
    rw [hook, hbrainfuck, leftOver, if_pos heven, List.append_nil, map_reading text hmeaning]
    exact endAlike_of_meaningful text hmeaning text.length
  · next hfault =>
    obtain ⟨after, hpending⟩ := exists_pending text words hfault
    rw [hook, hpending]
    constructor
    · intro earlier pair h
      exact h.ook text _ _
    · intro hnone
      cases hloops : openLoops 0 (commands (meaningful pairs)) with
      | none =>
        obtain ⟨earlier, pair, h⟩ := exists_unopened hloops
        exact absurd h (hnone earlier pair)
      | some loops =>
        rw [← map_kind_tokens text] at hloops
        exact Program.ofStream_of_interrupted ⟨_, after, loops, rfl, hloops⟩

end TapeLang.Ook
