import TapeLang.Proofs.Lexer.Stream

/-!
# The words of an Ook! text

The lexer looks for one word after the other and starts again behind the word that it has found.  No word
begins inside of another one, so nothing is lost that way, and the lexer comes across every place of the
text at which a word stands.

* `sightings`: all places of a text with a word, from left to right, whether a lexer sees them or not.
* `pairUp`, `pairReading`: the words taken in pairs, and what is read in place of a pair.
* `wordsFrom_of_wordAt?`: words do not overlap.
* **`stream_eq_pairs`**: the stream of a text is made of its pairs and of nothing else.
-/

namespace TapeLang.Ook

/-! ## Words and pairs -/

/-- A word written out. -/
def Mark.word : Mark → List Char
  | .full => "Ook.".toList
  | .query => "Ook?".toList
  | .bang => "Ook!".toList

/-- The mark of the word that is written at a position of a text. -/
def markAt? (text : List Char) (pos : Nat) : Option Mark :=
  [.full, .query, .bang].find? fun mark => (text.drop pos).take wordLength = mark.word

/-- A word and the position of its first character. -/
structure Sighting where
  pos : Nat
  mark : Mark
deriving DecidableEq, Repr

/-- All words of a text. -/
def sightings (text : List Char) : List Sighting :=
  (List.range text.length).filterMap fun pos => (markAt? text pos).map (Sighting.mk pos)

/-- Two words after each other. -/
abbrev Pair := Sighting × Sighting

/-- Takes words in pairs; a last word without a partner is left out. -/
def pairUp : List Sighting → List Pair
  | first :: second :: more => (first, second) :: pairUp more
  | _ => []

namespace Pair

/-- The command of a pair. -/
def command? (pair : Pair) : Option TokenKind :=
  commandOf? pair.1.mark pair.2.mark

/-- The token of a pair that stands for a command.  Its text goes from the beginning of the first word
to the end of the second. -/
def token (text : List Char) (pair : Pair) (kind : TokenKind) : Token :=
  { kind
    text := String.ofList ((text.drop pair.1.pos).take (pair.2.pos + wordLength - pair.1.pos))
    pos := pair.1.pos }

/-- What is wrong with a pair that stands for no command. -/
def fault (pair : Pair) : ParseError :=
  ⟨.language "Ook? Ook?: bad Ook sequence", pair.1.pos⟩

/-- What is read in place of a pair. -/
def reading (text : List Char) (pair : Pair) : Reading :=
  match pair.command? with
  | some kind => .ok (pair.token text kind)
  | none => .error pair.fault

end Pair

/-- What is wrong with a word that has no partner before the end of the text. -/
def oddFault (endPos : Nat) : ParseError :=
  ⟨.language "Odd number of Ook tokens", endPos⟩

/-- What is read behind the last pair of words. -/
def leftOver (endPos : Nat) (words : List Sighting) : List Reading :=
  if words.length % 2 = 0 then [] else [.error (oddFault endPos)]

lemma leftOver_cons_cons (endPos : Nat) (first second : Sighting) (more : List Sighting) :
    leftOver endPos (first :: second :: more) = leftOver endPos more := by
  have hlength : (first :: second :: more).length % 2 = more.length % 2 := by
    simp only [List.length_cons]
    omega
  rw [leftOver, hlength, leftOver]

/-! ## Finding every word -/

lemma wordAt?_eq_some_iff {text : List Char} {mark : Mark} :
    wordAt? text = some mark ↔ text.take wordLength = mark.word := by
  constructor
  · intro h
    unfold wordAt? at h
    split at h
    · next c rest =>
      unfold Mark.ofChar? at h
      split at h
      all_goals cases h
      all_goals rfl
    · simp at h
  · intro h
    rw [← List.take_append_drop wordLength text, h]
    cases mark <;> rfl

lemma markAt?_eq_wordAt? (text : List Char) (pos : Nat) :
    markAt? text pos = wordAt? (text.drop pos) := by
  simp only [markAt?, ← wordAt?_eq_some_iff]
  cases wordAt? (text.drop pos) with
  | none => rfl
  | some mark => cases mark <;> rfl

/-- The words of a text that starts at a position, found by trying each place. -/
def wordsFrom (pos : Nat) : List Char → List Sighting
  | [] => []
  | text@(_ :: rest) =>
    match wordAt? text with
    | some mark => ⟨pos, mark⟩ :: wordsFrom (pos + 1) rest
    | none => wordsFrom (pos + 1) rest

lemma filterMap_range_eq_wordsFrom (pos : Nat) (text : List Char) :
    (List.range text.length).filterMap
      (fun index => (markAt? text index).map (Sighting.mk (pos + index))) = wordsFrom pos text := by
  induction text generalizing pos with
  | nil => rfl
  | cons c rest ih =>
    have hrest : (List.range rest.length).filterMap
        ((fun index => (markAt? (c :: rest) index).map (Sighting.mk (pos + index))) ∘ Nat.succ) =
          wordsFrom (pos + 1) rest := by
      rw [← ih (pos + 1)]
      congr 1
      funext index
      simp only [Function.comp_apply, markAt?_eq_wordAt?, Nat.succ_eq_add_one, List.drop_succ_cons,
        Nat.add_assoc, Nat.add_comm 1 index]
    rw [List.length_cons, List.range_succ_eq_map, List.filterMap_cons, List.filterMap_map, hrest,
      markAt?_eq_wordAt?, List.drop_zero, wordsFrom]
    cases wordAt? (c :: rest) with
    | none => rfl
    | some mark => rfl

lemma sightings_eq_wordsFrom (text : List Char) : sightings text = wordsFrom 0 text := by
  rw [← filterMap_range_eq_wordsFrom]
  simp only [sightings, Nat.zero_add]

-- neither a noun in front of a word nor one without a mark is a word
example : sightings "OokOok. Ook".toList = [⟨3, .full⟩] := by decide

/-- **Words do not overlap**: behind the beginning of a word, the next word can only stand behind its
end. -/
lemma wordsFrom_of_wordAt? {text : List Char} {mark : Mark} (h : wordAt? text = some mark) (pos : Nat) :
    wordsFrom pos text = ⟨pos, mark⟩ :: wordsFrom (pos + wordLength) (text.drop wordLength) := by
  have hword : text = mark.word ++ text.drop wordLength := by
    rw [← wordAt?_eq_some_iff.mp h, List.take_append_drop]
  generalize text.drop wordLength = rest at hword
  subst hword
  -- with its letters known, no word begins at the second, third or fourth of them
  cases mark <;> rfl

lemma wordsFrom_of_findWord_eq_none {text : List Char} {pos : Nat} (h : findWord text pos = none) :
    wordsFrom pos text = [] := by
  induction text generalizing pos with
  | nil => rfl
  | cons c rest ih =>
    rw [findWord] at h
    split at h
    · simp at h
    · next hword => rw [wordsFrom, hword, ih h]

/-- Where a word has been found. -/
def Word.sighting (word : Word) : Sighting :=
  ⟨word.here.pos, word.mark⟩

lemma wordsFrom_of_findWord {text : List Char} {pos : Nat} {word : Word}
    (h : findWord text pos = some word) :
    wordsFrom pos text = word.sighting :: wordsFrom word.after.pos word.after.rest := by
  induction text generalizing pos with
  | nil => simp [findWord] at h
  | cons c rest ih =>
    rw [findWord] at h
    split at h
    · next hword =>
      cases h
      exact wordsFrom_of_wordAt? hword pos
    · next hword => rw [wordsFrom, hword, ih h]

/-! ## Cursors in a text -/

/-- The cursor stands in the text: what is left to read is the text behind its position. -/
structure Stands (text : List Char) (cursor : Cursor) : Prop where
  pos_le : cursor.pos ≤ text.length
  rest_eq : cursor.rest = text.drop cursor.pos

lemma stands_start (text : List Char) : Stands text (Cursor.start text) :=
  ⟨Nat.zero_le _, rfl⟩

lemma stands_end (text : List Char) : Stands text ⟨text.length, []⟩ :=
  ⟨Nat.le_refl _, List.drop_length.symm⟩

lemma Stands.pos_add_length {text : List Char} {cursor : Cursor} (h : Stands text cursor) :
    cursor.pos + cursor.rest.length = text.length := by
  have hpos := h.pos_le
  rw [h.rest_eq, List.length_drop]
  omega

lemma Stands.skip {text : List Char} {cursor : Cursor} (h : Stands text cursor) {count : Nat}
    (hcount : count ≤ cursor.rest.length) : Stands text (cursor.skip count) := by
  have hlength := h.pos_add_length
  refine ⟨?_, ?_⟩
  · simp only [Cursor.skip]
    omega
  · simp only [Cursor.skip, h.rest_eq, List.drop_drop]

lemma wordLength_le_of_wordAt? {text : List Char} {mark : Mark} (h : wordAt? text = some mark) :
    wordLength ≤ text.length := by
  have hlength := congrArg List.length (wordAt?_eq_some_iff.mp h)
  have hword : mark.word.length = wordLength := by cases mark <;> rfl
  rw [List.length_take, hword] at hlength
  omega

/-- A word stands where it is found, and ends its length further on. -/
structure Found (text : List Char) (word : Word) : Prop where
  here : Stands text word.here
  after : Stands text word.after
  pos_after : word.after.pos = word.here.pos + wordLength

lemma Stands.found {text : List Char} {cursor : Cursor} {word : Word} (h : Stands text cursor)
    (hfind : findWord cursor.rest cursor.pos = some word) : Found text word := by
  obtain ⟨pos, rest⟩ := cursor
  simp only at hfind
  induction rest generalizing pos with
  | nil => simp [findWord] at hfind
  | cons c rest ih =>
    rw [findWord] at hfind
    split at hfind
    · next hword =>
      cases hfind
      exact ⟨h, h.skip (wordLength_le_of_wordAt? hword), rfl⟩
    · have hone : 1 ≤ (c :: rest).length := by simp
      exact ih (pos + 1) (h.skip hone) hfind

/-! ## The stream -/

/-- What is read from a list of words. -/
def wordReadings (text : List Char) (words : List Sighting) : List Reading :=
  (pairUp words).map (Pair.reading text) ++ leftOver text.length words

lemma wordReadings_cons_cons (text : List Char) (first second : Sighting) (more : List Sighting) :
    wordReadings text (first :: second :: more) =
      Pair.reading text (first, second) :: wordReadings text more := by
  rw [wordReadings, pairUp, leftOver_cons_cons, List.map_cons, List.cons_append, wordReadings]

/-- A cursor in the text, and what is read from the words behind it. -/
def OokAhead (text : List Char) (cursor : Cursor) (readings : List Reading) : Prop :=
  Stands text cursor ∧ readings = wordReadings text (wordsFrom cursor.pos cursor.rest)

section

variable {text : List Char} {cursor : Cursor} {first second : Word}

lemma readPair_of_none (h : findWord cursor.rest cursor.pos = none) : readPair cursor = none := by
  rw [readPair, h]

lemma readPair_of_lone (hstands : Stands text cursor)
    (hfirst : findWord cursor.rest cursor.pos = some first)
    (hsecond : findWord first.after.rest first.after.pos = none) :
    readPair cursor = some (.error (oddFault text.length), ⟨text.length, []⟩) := by
  have hend : first.after.pos + first.after.rest.length = text.length :=
    (hstands.found hfirst).after.pos_add_length
  simp only [readPair, hfirst, hsecond, hend, oddFault]

lemma readPair_of_pair (hstands : Stands text cursor)
    (hfirst : findWord cursor.rest cursor.pos = some first)
    (hsecond : findWord first.after.rest first.after.pos = some second) :
    readPair cursor = some (Pair.reading text (first.sighting, second.sighting), second.after) := by
  have hfound := hstands.found hfirst
  have hhere : first.here.rest = text.drop first.here.pos := hfound.here.rest_eq
  have hafter : second.after.pos = second.here.pos + wordLength := (hfound.after.found hsecond).pos_after
  simp only [readPair, hfirst, hsecond, Pair.reading, Pair.command?, Word.sighting]
  cases commandOf? first.mark second.mark with
  | none => rfl
  | some kind => simp only [Pair.token, hhere, hafter]

end

/-- Every step of the lexer takes the next two words, or the last one. -/
lemma ook_foretells (text : List Char) : lexer.Foretells (OokAhead text) where
  stop := by
    rintro cursor readings ⟨hstands, rfl⟩ hstep
    cases hfirst : findWord cursor.rest cursor.pos with
    | none =>
      rw [wordsFrom_of_findWord_eq_none hfirst]
      rfl
    | some first =>
      cases hsecond : findWord first.after.rest first.after.pos with
      | none => simp [lexer, readPair_of_lone hstands hfirst hsecond] at hstep
      | some second => simp [lexer, readPair_of_pair hstands hfirst hsecond] at hstep
  step := by
    rintro cursor readings reading next ⟨hstands, rfl⟩ hstep
    cases hfirst : findWord cursor.rest cursor.pos with
    | none => simp [lexer, readPair_of_none hfirst] at hstep
    | some first =>
      rw [wordsFrom_of_findWord hfirst]
      cases hsecond : findWord first.after.rest first.after.pos with
      | none =>
        simp only [lexer, readPair_of_lone hstands hfirst hsecond, Option.some.injEq,
          Prod.mk.injEq] at hstep
        obtain ⟨rfl, rfl⟩ := hstep
        rw [wordsFrom_of_findWord_eq_none hsecond]
        exact ⟨[], rfl, stands_end text, rfl⟩
      | some second =>
        simp only [lexer, readPair_of_pair hstands hfirst hsecond, Option.some.injEq,
          Prod.mk.injEq] at hstep
        obtain ⟨rfl, rfl⟩ := hstep
        have hafter := ((hstands.found hfirst).after.found hsecond).after
        rw [wordsFrom_of_findWord hsecond, wordReadings_cons_cons]
        exact ⟨_, rfl, hafter, rfl⟩

/-- **The stream of a text is made of its pairs of words.**  Each pair is read as its command or as
its fault; a last word without a partner is a fault at the end of the text. -/
theorem stream_eq_pairs (source : String) :
    lexer.stream source =
      ⟨(pairUp (sightings source.toList)).map (Pair.reading source.toList) ++
        leftOver source.toList.length (sightings source.toList), source.toList.length⟩ := by
  have hahead : OokAhead source.toList (Cursor.start source.toList)
      (wordReadings source.toList (sightings source.toList)) := by
    refine ⟨stands_start _, ?_⟩
    rw [sightings_eq_wordsFrom]
    rfl
  rw [Lexer.stream_eq (ook_foretells _) hahead, wordReadings]

end TapeLang.Ook
