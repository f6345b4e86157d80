import TapeLang.Lexer.Rules
import TapeLang.Proofs.Lexer.Ook

/-!
# The order of a stream

A stream is asked for one item after the other, also behind an error and behind the end of the source.
Three kinds of lexers answer, each with a way of its own to look for the next token.  What they have in
common is the order in which they answer: tokens do not overlap, positions do not go back, and the end
of the source comes after no more answers than there are characters.

* `TokenStream.answers`, `Lexer.answers`: asking a stream, and asking a lexer that keeps its cursor.
* `Lexer.ReadsInPlace`: what one step of a lexer has to do.  `SymbolTable.readsInPlace`,
  `Rule.readsInPlace` and `Ook.readsInPlace` say that the three kinds of lexers do it.
* `Lexer.KeepsOrder`: what is then true of every run of answers.
* **`Lexer.streams_keep_order`**: the three kinds of lexers keep the order, on every source.
-/

namespace TapeLang

open Ook (Stands stands_start stands_end)

/-! ## Asking for one item after the other -/

/-- What is answered when the next item is asked for. -/
abbrev StreamAnswer := Except ParseError Item

/-- The position that an answer speaks of. -/
def StreamAnswer.pos : StreamAnswer → Int
  | .ok item => item.pos
  | .error e => e.pos

/-- The earlier answer speaks of a position that is not behind the later one's, and a token ends
before the later one's. -/
def StreamAnswer.Precedes (earlier later : StreamAnswer) : Prop :=
  StreamAnswer.pos earlier ≤ StreamAnswer.pos later ∧
    ∀ token, earlier = .ok (.token token) →
      (token.pos + token.text.length : Int) ≤ StreamAnswer.pos later

/-- The first answers of a stream. -/
def TokenStream.answers : (count : Nat) → TokenStream → List StreamAnswer
  | 0, _ => []
  | count + 1, stream =>
    match stream.next with
    | (answer, stream) => answer :: TokenStream.answers count stream

namespace Lexer

/-- A lexer is what its steps do. -/
lemma eq_of_step_eq {lexer other : Lexer} (h : lexer.step = other.step) : lexer = other := by
  rcases lexer with ⟨step, consumes⟩
  subst h
  rfl

/-- What a lexer answers at a cursor, and the cursor it goes on from.  When no token is left, that is
the end of the source. -/
def answer (lexer : Lexer) (cursor : Cursor) : StreamAnswer × Cursor :=
  match lexer.step cursor with
  | none => (.ok (.finish (cursor.pos + cursor.rest.length)), cursor.skip cursor.rest.length)
  | some (reading, next) => (reading.map Item.token, next)

/-- The first answers of a lexer from a cursor on.  Nothing bounds their number but `count`. -/
def answers (lexer : Lexer) : (count : Nat) → Cursor → List StreamAnswer
  | 0, _ => []
  | count + 1, cursor =>
    match lexer.answer cursor with
    | (answer, next) => answer :: lexer.answers count next

/-! ## What one step has to do -/

/-- A reading that stands between two positions of a text.  A token is not empty and is written where
it says. -/
def InPlace (text : List Char) (start stop : Nat) : Reading → Prop
  | .ok token =>
    token.text ≠ "" ∧ token.text.toList = (text.drop token.pos).take token.text.length ∧
      start ≤ token.pos ∧ token.pos + token.text.length ≤ stop
  | .error e => (start : Int) ≤ e.pos ∧ e.pos ≤ (stop : Int)

/-- A piece of a text that is not empty stands where it was cut out. -/
lemma inPlace_slice {text : List Char} {start stop pos count : Nat} (kind : TokenKind)
    (hcount : 0 < count) (hstart : start ≤ pos) (hstop : pos + count ≤ stop)
    (hinside : stop ≤ text.length) :
    InPlace text start stop (.ok ⟨kind, String.ofList ((text.drop pos).take count), pos⟩) := by
  have hlength : ((text.drop pos).take count).length = count := by
    rw [List.length_take, List.length_drop]
    omega
  refine ⟨?_, ?_, hstart, ?_⟩
  · simp only [ne_eq, String.ofList_eq_empty_iff, ← List.length_eq_zero_iff, hlength]
    omega
  · simp only [String.toList_ofList, String.length_ofList, hlength]
  · simpa only [String.length_ofList, hlength] using hstop

/-- Wherever the lexer is in a text, what it reads stands between its cursors before and after. -/
def ReadsInPlace (lexer : Lexer) : Prop :=
  ∀ (text : List Char) (cursor next : Cursor) (reading : Reading), Stands text cursor →
    lexer.step cursor = some (reading, next) →
      Stands text next ∧ InPlace text cursor.pos next.pos reading

end Lexer

/-! ### Symbols -/

lemma SymbolTable.entryAt?_take {table : SymbolTable} {text : List Char} {entry : SymbolEntry}
    (h : table.entryAt? text = some entry) : entry.symbol = text.take entry.symbol.length := by
  cases text with
  | nil => simp [entryAt?] at h
  | cons c rest =>
    have hprefix := List.find?_some h
    exact List.prefix_iff_eq_take.mp (List.isPrefixOf_iff_prefix.mp hprefix)

lemma SymbolTable.scan_inPlace {table : SymbolTable} {text rest : List Char} {pos : Nat} {token : Token}
    {next : Cursor} (hstands : Stands text ⟨pos, rest⟩)
    (h : table.scan rest pos = some (token, next)) :
    Stands text next ∧ Lexer.InPlace text pos next.pos (.ok token) := by
  induction rest generalizing pos with
  | nil => simp [scan] at h
  | cons c rest ih =>
    rw [scan] at h
    split at h
    · next entry hentry =>
      have hrest : c :: rest = text.drop pos := hstands.rest_eq
      have hsymbol := entryAt?_take hentry
      have hlength : entry.symbol.length ≤ (c :: rest).length := by
        rw [hsymbol]
        exact List.length_take_le' _ _
      have hpositive : 0 < entry.symbol.length := List.length_pos_iff.mpr entry.nonempty
      have hnext := hstands.skip hlength
      simp only [Option.some.injEq, Prod.mk.injEq] at h
      obtain ⟨rfl, rfl⟩ := h
      refine ⟨hnext, ?_⟩
      have hplace := Lexer.inPlace_slice entry.kind hpositive (Nat.le_refl pos) (Nat.le_refl _)
        hnext.pos_le
      rwa [← hrest, ← hsymbol] at hplace
    · have hone : 1 ≤ (c :: rest).length := by simp
      obtain ⟨hnext, htext, hslice, hstart, hstop⟩ := ih (hstands.skip hone) h
      exact ⟨hnext, htext, hslice, Nat.le_of_succ_le hstart, hstop⟩

lemma SymbolTable.readsInPlace (table : SymbolTable) : table.lexer.ReadsInPlace := by
  intro text cursor next reading hstands hstep
  obtain ⟨⟨token, after⟩, hscan, heq⟩ := Option.map_eq_some_iff.mp hstep
  obtain ⟨rfl, rfl⟩ := Prod.mk.inj heq
  exact scan_inPlace hstands hscan

/-! ### Patterns -/

lemma Rule.readsInPlace (rules : List Rule) : (Rule.lexer rules).ReadsInPlace := by
  intro text cursor next reading hstands hstep
  obtain ⟨⟨token, after⟩, hscan, heq⟩ := Option.map_eq_some_iff.mp hstep
  obtain ⟨rfl, rfl⟩ := Prod.mk.inj heq
  unfold Rule.scan at hscan
  split at hscan
  · simp at hscan
  · next kind span hspan =>
    obtain ⟨hreal, hinside⟩ := Rule.earliest?_bounds hspan
    have hnext := hstands.skip hinside
    simp only [Option.some.injEq, Prod.mk.injEq] at hscan
    obtain ⟨rfl, rfl⟩ := hscan
    refine ⟨hnext, ?_⟩
    rw [hstands.rest_eq, List.drop_drop]
    refine Lexer.inPlace_slice kind (by omega) (Nat.le_add_right _ _) ?_ hnext.pos_le
    simp only [Cursor.skip]
    omega

/-! ### Words -/

namespace Ook

lemma le_pos_of_findWord {text : List Char} {pos : Nat} {word : Word}
    (h : findWord text pos = some word) : pos ≤ word.here.pos := by
  induction text generalizing pos with
  | nil => simp [findWord] at h
  | cons c rest ih =>
    rw [findWord] at h
    split at h
    · cases h
      exact Nat.le_refl _
    · have := ih h
      omega

lemma pair_inPlace {text : List Char} {start stop : Nat} {first second : Sighting}
    (hstart : start ≤ first.pos) (horder : first.pos + wordLength ≤ second.pos)
    (hstop : second.pos + wordLength = stop) (hinside : stop ≤ text.length) :
    Lexer.InPlace text start stop (Pair.reading text (first, second)) := by
  have hword : 0 < wordLength := by decide
  unfold Pair.reading
  cases Pair.command? (first, second) with
  | none =>
    simp only [Lexer.InPlace, Pair.fault]
    omega
  | some kind =>
    have hcount : 0 < second.pos + wordLength - first.pos := by omega
    have hend : first.pos + (second.pos + wordLength - first.pos) ≤ stop := by omega
    exact Lexer.inPlace_slice kind hcount hstart hend hinside

lemma readsInPlace : lexer.ReadsInPlace := by
  intro text cursor next reading hstands hstep
  cases hfirst : findWord cursor.rest cursor.pos with
  | none => simp [lexer, readPair_of_none hfirst] at hstep
  | some first =>
    have hfound := hstands.found hfirst
    have hstart := le_pos_of_findWord hfirst
    have hafter := hfound.pos_after
    cases hsecond : findWord first.after.rest first.after.pos with
    | none =>
      simp only [lexer, readPair_of_lone hstands hfirst hsecond, Option.some.injEq,
        Prod.mk.injEq] at hstep
      obtain ⟨rfl, rfl⟩ := hstep
      exact ⟨stands_end text, Int.ofNat_le.mpr hstands.pos_le, Int.le_refl _⟩
    | some second =>
      have hfound' := hfound.after.found hsecond
      have horder : first.here.pos + wordLength ≤ second.here.pos := by
        have := le_pos_of_findWord hsecond
        omega
      simp only [lexer, readPair_of_pair hstands hfirst hsecond, Option.some.injEq,
        Prod.mk.injEq] at hstep
      obtain ⟨rfl, rfl⟩ := hstep
      exact ⟨hfound'.after,
        pair_inPlace hstart horder hfound'.pos_after.symm hfound'.after.pos_le⟩

end Ook

/-! ## What follows for a run of answers -/

namespace Lexer

variable {lexer : Lexer} {text : List Char} {cursor : Cursor}

/-- **One answer.**  Nothing is left, and then the answer is the end of the text, where the cursor goes;
or something is read in its place. -/
lemma ReadsInPlace.answer_cases (h : lexer.ReadsInPlace) (hstands : Stands text cursor) :
    (lexer.step cursor = none ∧
      lexer.answer cursor = (.ok (.finish text.length), ⟨text.length, []⟩)) ∨
    ∃ reading next, lexer.step cursor = some (reading, next) ∧
      lexer.answer cursor = (reading.map Item.token, next) ∧ Stands text next ∧
      InPlace text cursor.pos next.pos reading := by
  cases hstep : lexer.step cursor with
  | none =>
    refine .inl ⟨rfl, ?_⟩
    simp only [answer, hstep, Cursor.skip, hstands.pos_add_length, List.drop_length]
  | some taken =>
    obtain ⟨reading, next⟩ := taken
    have hanswer : lexer.answer cursor = (reading.map Item.token, next) := by
      simp only [answer, hstep]
    exact .inr ⟨reading, next, rfl, hanswer, h text cursor next reading hstands hstep⟩

lemma step_nil (lexer : Lexer) (pos : Nat) : lexer.step ⟨pos, []⟩ = none := by
  cases hstep : lexer.step ⟨pos, []⟩ with
  | none => rfl
  | some taken =>
    have hconsumes := lexer.consumes hstep
    simp at hconsumes

/-- The end of the text is answered for good. -/
lemma answers_end (lexer : Lexer) (count pos : Nat) :
    lexer.answers count ⟨pos, []⟩ = List.replicate count (.ok (.finish pos)) := by
  induction count with
  | zero => rfl
  | succ count ih =>
    simp only [answers, answer, step_nil, Cursor.skip, List.length_nil, Nat.add_zero, List.drop_nil,
      ih, List.replicate_succ]

lemma answers_succ (lexer : Lexer) (count : Nat) (cursor : Cursor) :
    lexer.answers (count + 1) cursor =
      (lexer.answer cursor).1 :: lexer.answers count (lexer.answer cursor).2 := rfl

lemma pos_of_inPlace {start stop : Nat} {reading : Reading} (h : InPlace text start stop reading) :
    (start : Int) ≤ StreamAnswer.pos (reading.map Item.token) ∧
      StreamAnswer.pos (reading.map Item.token) ≤ stop := by
  cases reading with
  | error e => exact h
  | ok token =>
    obtain ⟨-, -, hstart, hstop⟩ := h
    simp only [Except.map, StreamAnswer.pos, Item.pos]
    omega

lemma precedes_of_inPlace {start stop : Nat} {reading : Reading} {later : StreamAnswer}
    (h : InPlace text start stop reading) (hlater : (stop : Int) ≤ StreamAnswer.pos later) :
    StreamAnswer.Precedes (reading.map Item.token) later := by
  refine ⟨Int.le_trans (pos_of_inPlace h).2 hlater, fun token htoken => ?_⟩
  cases reading with
  | error e => simp [Except.map] at htoken
  | ok written =>
    simp only [Except.map, Except.ok.injEq, Item.token.injEq] at htoken
    subst htoken
    obtain ⟨-, -, -, hstop⟩ := h
    omega

/-- Every answer speaks of a position between the cursor and the end. -/
lemma ReadsInPlace.bounds (h : lexer.ReadsInPlace) (hstands : Stands text cursor) (count : Nat) :
    ∀ given ∈ lexer.answers count cursor,
      (cursor.pos : Int) ≤ StreamAnswer.pos given ∧ StreamAnswer.pos given ≤ text.length := by
  induction count generalizing cursor with
  | zero => simp [answers]
  | succ count ih =>
    intro given hgiven
    rw [answers_succ, List.mem_cons] at hgiven
    obtain ⟨-, hanswer⟩ | ⟨reading, next, -, hanswer, hnext, hplace⟩ := h.answer_cases hstands
    · -- behind the end the cursor stays at the end
      have hend := ih (stands_end text) given
      have hpos := hstands.pos_le
      rw [hanswer] at hgiven
      obtain rfl | hgiven := hgiven
      · simp only [StreamAnswer.pos, Item.pos]
        omega
      · have := hend hgiven
        simp only at this
        omega
    · have hpos := pos_of_inPlace hplace
      have hinside := hnext.pos_le
      rw [hanswer] at hgiven
      obtain rfl | hgiven := hgiven
      · simp only
        omega
      · have := ih hnext given hgiven
        omega

lemma ReadsInPlace.pairwise (h : lexer.ReadsInPlace) (hstands : Stands text cursor) (count : Nat) :
    (lexer.answers count cursor).Pairwise StreamAnswer.Precedes := by
  induction count generalizing cursor with
  | zero => exact List.Pairwise.nil
  | succ count ih =>
    rw [answers_succ]
    obtain ⟨-, hanswer⟩ | ⟨reading, next, -, hanswer, hnext, hplace⟩ := h.answer_cases hstands
    · rw [hanswer]
      refine List.Pairwise.cons (fun later hlater => ⟨?_, by simp⟩) (ih (stands_end text))
      exact (h.bounds (stands_end text) count later hlater).1
    · rw [hanswer]
      refine List.Pairwise.cons (fun later hlater => ?_) (ih hnext)
      exact precedes_of_inPlace hplace (h.bounds hnext count later hlater).1

lemma ReadsInPlace.token_text (h : lexer.ReadsInPlace) (hstands : Stands text cursor) (count : Nat) :
    ∀ token, .ok (.token token) ∈ lexer.answers count cursor →
      token.text ≠ "" ∧ token.text.toList = (text.drop token.pos).take token.text.length := by
  induction count generalizing cursor with
  | zero => simp [answers]
  | succ count ih =>
    intro token htoken
    rw [answers_succ, List.mem_cons] at htoken
    obtain ⟨-, hanswer⟩ | ⟨reading, next, -, hanswer, hnext, hplace⟩ := h.answer_cases hstands
    · rw [hanswer] at htoken
      obtain heq | htoken := htoken
      · simp at heq
      · exact ih (stands_end text) token htoken
    · rw [hanswer] at htoken
      obtain heq | htoken := htoken
      · cases reading with
        | error e => simp [Except.map] at heq
        | ok written =>
          simp only [Except.map, Except.ok.injEq, Item.token.injEq] at heq
          subst heq
          exact ⟨hplace.1, hplace.2.1⟩
      · exact ih hnext token htoken

/-- The end comes after no more answers than there are characters left, and then for good. -/
lemma ReadsInPlace.finishes (h : lexer.ReadsInPlace) (hstands : Stands text cursor) :
    ∃ readings : List Reading, readings.length ≤ cursor.rest.length ∧ ∀ count,
      lexer.answers (readings.length + count) cursor =
        readings.map (Except.map Item.token) ++ List.replicate count (.ok (.finish text.length)) := by
  -- by the number of characters left, of which each reading takes some
  generalize hsize : cursor.rest.length = size
  induction size using Nat.strongRecOn generalizing cursor with
  | ind size ih =>
    obtain ⟨-, hanswer⟩ | ⟨reading, next, hstep, hanswer, hnext, -⟩ := h.answer_cases hstands
    · refine ⟨[], Nat.zero_le _, fun count => ?_⟩
      cases count with
      | zero => rfl
      | succ count =>
        rw [List.length_nil, Nat.zero_add, answers_succ, hanswer, answers_end]
        rfl
    · have hconsumes := lexer.consumes hstep
      obtain ⟨readings, hlength, hreadings⟩ := ih _ (by omega) hnext rfl
      refine ⟨reading :: readings, by simp only [List.length_cons]; omega, fun count => ?_⟩
      rw [List.length_cons, Nat.add_right_comm, answers_succ, hanswer]
      simp only [hreadings, List.map_cons, List.cons_append]

/-- Asking a stream is asking its lexer: none of the answers is cut off. -/
lemma ReadsInPlace.answers_stream (h : lexer.ReadsInPlace) (hstands : Stands text cursor) {limit : Nat}
    (hlimit : cursor.rest.length ≤ limit) (count : Nat) :
    TokenStream.answers count ⟨lexer.readings limit cursor, text.length⟩ =
      lexer.answers count cursor := by
  induction count generalizing limit cursor with
  | zero => rfl
  | succ count ih =>
    rw [answers_succ]
    obtain ⟨hstep, hanswer⟩ | ⟨reading, next, hstep, hanswer, hnext, -⟩ := h.answer_cases hstands
    · have hnone : lexer.readings limit cursor = [] := by
        cases limit with
        | zero => rfl
        | succ limit => simp only [readings, hstep]
      have hend := ih (stands_end text) (Nat.le_refl 0)
      rw [hnone, hanswer]
      exact congrArg _ hend
    · have hconsumes := lexer.consumes hstep
      obtain ⟨limit, rfl⟩ : ∃ smaller, limit = smaller + 1 := ⟨limit - 1, by omega⟩
      have hsmaller : next.rest.length ≤ limit := by omega
      have hrest := ih hnext hsmaller
      rw [hanswer, ← hrest]
      simp only [readings, hstep, TokenStream.answers]
      cases reading <;> rfl

/-! ## The order -/

/-- The answers of a lexer's stream, however often it is asked. -/
structure KeepsOrder (lexer : Lexer) (source : String) : Prop where
  /-- They are those of the lexer itself. -/
  answers_eq : ∀ count, TokenStream.answers count (lexer.stream source) =
    lexer.answers count (Cursor.start source.toList)
  /-- A token is not empty, and the source has its text at its position. -/
  token_text : ∀ count token, .ok (.token token) ∈ TokenStream.answers count (lexer.stream source) →
    token.text ≠ "" ∧ token.text.toList = (source.toList.drop token.pos).take token.text.length
  /-- No answer goes back behind an earlier one. -/
  ordered : ∀ count,
    (TokenStream.answers count (lexer.stream source)).Pairwise StreamAnswer.Precedes
  /-- All answers speak of positions in the source. -/
  bounds : ∀ count, ∀ given ∈ TokenStream.answers count (lexer.stream source),
    0 ≤ StreamAnswer.pos given ∧ StreamAnswer.pos given ≤ source.length
  /-- The end of the source comes after at most as many tokens and errors as there are characters, and
  from then on each time. -/
  finishes : ∃ readings : List Reading, readings.length ≤ source.length ∧ ∀ count,
    TokenStream.answers (readings.length + count) (lexer.stream source) =
      readings.map (Except.map Item.token) ++ List.replicate count (.ok (.finish source.length))

lemma ReadsInPlace.keepsOrder (h : lexer.ReadsInPlace) (source : String) :
    lexer.KeepsOrder source := by
  have hstart := stands_start source.toList
  have hanswers : ∀ count, TokenStream.answers count (lexer.stream source) =
      lexer.answers count (Cursor.start source.toList) :=
    h.answers_stream hstart (Nat.le_refl _)
  refine ⟨hanswers, ?_, ?_, ?_, ?_⟩
  · intro count
    rw [hanswers]
    exact h.token_text hstart count
  · intro count
    rw [hanswers]
    exact h.pairwise hstart count
  · intro count
    rw [hanswers, ← String.length_toList]
    exact h.bounds hstart count
  · simp only [hanswers, ← String.length_toList]
    exact h.finishes hstart

/-- **Every stream keeps the order.**  For every table of symbols, every list of rules, whatever their
patterns match, and for Ook!, on every source. -/
theorem streams_keep_order (table : SymbolTable) (rules : List Rule) (source : String) :
    table.lexer.KeepsOrder source ∧ (Rule.lexer rules).KeepsOrder source ∧
      Ook.lexer.KeepsOrder source :=
  ⟨table.readsInPlace.keepsOrder source, (Rule.readsInPlace rules).keepsOrder source,
    Ook.readsInPlace.keepsOrder source⟩

end Lexer

end TapeLang
