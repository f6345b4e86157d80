import TapeLang.Lexer

/-!
# The lexer of Ook!

Ook! has a single noun with three marks, `Ook.`, `Ook?` and `Ook!`.  Each command is a pair of
words, and whatever stands between or around the words is a comment.  The pair `Ook? Ook?` has no
meaning, and a word without a partner at the end of the source is an error.
-/

namespace TapeLang.Ook

/-- The mark that ends a word. -/
inductive Mark where
  | full
  | query
  | bang
deriving DecidableEq, Repr

/-- The mark written as a character. -/
def Mark.ofChar? : Char → Option Mark
  | '.' => some .full
  | '?' => some .query
  | '!' => some .bang
  | _ => none

/-- The command of a pair of words. -/
def commandOf? : Mark → Mark → Option TokenKind
  | .full, .query => some .pointerUp
  | .query, .full => some .pointerDown
  | .full, .full => some .dataUp
  | .bang, .bang => some .dataDown
  | .bang, .full => some .output
  | .full, .bang => some .input
  | .bang, .query => some .loopHead
  | .query, .bang => some .loopTail
  | .query, .query => none

/-- The number of characters in a word. -/
def wordLength : Nat := 4

/-- The mark of the word that starts a text, if one does. -/
def wordAt? : List Char → Option Mark
  | 'O' :: 'o' :: 'k' :: mark :: _ => Mark.ofChar? mark
  | _ => none

/-- A word found in a source: its mark, the cursor at its first character, and the one behind it. -/
structure Word where
  mark : Mark
  here : Cursor
  after : Cursor

/-- The first word of a text that starts at `pos`. -/
def findWord : (text : List Char) → (pos : Nat) → Option Word
  | [], _ => none
  | text@(_ :: rest), pos =>
    match wordAt? text with
    | some mark => some ⟨mark, ⟨pos, text⟩, ⟨pos + wordLength, text.drop wordLength⟩⟩
    | none => findWord rest (pos + 1)

/-- What is left behind a word is shorter than the text it was found in. -/
theorem findWord_consumes {text : List Char} {pos : Nat} {word : Word}
    (h : findWord text pos = some word) : word.after.rest.length < text.length := by
  induction text generalizing pos with
  | nil => simp [findWord] at h
  | cons c rest ih =>
    rw [findWord] at h
    split at h
    · simp only [Option.some.injEq] at h
      simp only [← h, List.length_drop, List.length_cons, wordLength]
      omega
    · have := ih h
      simp only [List.length_cons]
      omega

/-- Reads a pair of words.  A lone word is blamed on the end of the source, where its partner is
missing; a pair without a meaning on its first word. -/
def readPair (cursor : Cursor) : Option (Reading × Cursor) :=
  match findWord cursor.rest cursor.pos with
  | none => none
  | some first =>
    match findWord first.after.rest first.after.pos with
    | none =>
      let endPos := first.after.pos + first.after.rest.length
      some (.error ⟨.language "Odd number of Ook tokens", endPos⟩, ⟨endPos, []⟩)
    | some second =>
      match commandOf? first.mark second.mark with
      | none =>
        some (.error ⟨.language "Ook? Ook?: bad Ook sequence", first.here.pos⟩, second.after)
      | some kind =>
        let text := first.here.rest.take (second.after.pos - first.here.pos)
        some (.ok { kind, text := String.ofList text, pos := first.here.pos }, second.after)

/-- A pair consumes at least its first word. -/
theorem readPair_consumes {cursor next : Cursor} {reading : Reading}
    (h : readPair cursor = some (reading, next)) :
    next.rest.length < cursor.rest.length := by
  unfold readPair at h
  split at h
  · exact absurd h nofun
  · next first hfirst =>
    have h₁ := findWord_consumes hfirst
    split at h
    · simp only [Option.some.injEq, Prod.mk.injEq] at h
      simp only [← h.2, List.length_nil]
      omega
    · next second hsecond =>
      have h₂ := findWord_consumes hsecond
      split at h <;>
        (simp only [Option.some.injEq, Prod.mk.injEq] at h
         simp only [← h.2]
         omega)

/-- The lexer of Ook!. -/
def lexer : Lexer where
  step := readPair
  consumes := readPair_consumes

end TapeLang.Ook
