import TapeLang.Language
import TapeLang.Proofs.Lexer.Order
import TapeLang.Proofs.ParseError.Place
import TapeLang.Proofs.Program.Acceptance

/-!
# What a report shows

The report on an error gives the line and the column of the position that is blamed, and below them some
lines of the source with a caret.  An error that comes from reading a source blames a position in it,
which may be the end, so its place is a place of the source, and the line is among those that are shown.

* `Lexer.error_cases`: what an error can be about.
* `Lexer.ReadsInPlace.pos_of_parse`: an error blames a position in the source.
* `window`: some lines of a text as they are shown around one of them.
* `excerpt_eq_window`: an excerpt is a window.  None of its rows breaks over two lines
  (`newline_notMem_of_mem_window`), so nothing in the source can pass for a row.
* **`ParseError.describe_shows_place`**: the report on an error of a source.
-/

namespace TapeLang

/-! ## Which positions are blamed -/

/-- A stream that is asked as often as it has readings gives them all. -/
lemma TokenStream.answers_pending (readings : List Reading) (endPos : Nat) :
    TokenStream.answers readings.length ⟨readings, endPos⟩ =
      readings.map (Except.map Item.token) := by
  induction readings with
  | nil => rfl
  | cons reading readings ih =>
    rw [List.map_cons, ← ih]
    cases reading <;> rfl

namespace Lexer

variable {lexer : Lexer} {source : String}

lemma ReadsInPlace.pos_of_mem_pending (h : lexer.ReadsInPlace) {reading : Reading}
    (hreading : reading ∈ (lexer.stream source).pending) :
    0 ≤ StreamAnswer.pos (reading.map Item.token) ∧
      StreamAnswer.pos (reading.map Item.token) ≤ source.length := by
  apply (h.keepsOrder source).bounds (lexer.stream source).pending.length
  rw [TokenStream.answers_pending]
  exact List.mem_map_of_mem hreading

/-- An error is about a token, or comes from the lexer, or is about the end. -/
lemma error_cases {e : ParseError} (hparse : lexer.parse source = .error (.source e)) :
    (∃ tail, .ok tail ∈ (lexer.stream source).pending ∧ e = ⟨.unopenedLoop, tail.pos⟩) ∨
      .error e ∈ (lexer.stream source).pending ∨ e = ⟨.unclosedLoop, source.length⟩ := by
  rw [Lexer.parse] at hparse
  obtain hbalanced | ⟨tail, hunopened⟩ | ⟨fault, hinterrupted⟩ | hunclosed :=
    (lexer.stream source).decided
  · obtain ⟨program, hprogram⟩ := Program.ofStream_of_isBalanced hbalanced
    simp [hprogram] at hparse
  · rw [Program.ofStream_of_unopened hunopened, Except.error.injEq, ReadFailure.source.injEq] at hparse
    obtain ⟨before, after, hpending, -, -⟩ := hunopened
    exact .inl ⟨tail, by simp [hpending], hparse.symm⟩
  · rw [Program.ofStream_of_interrupted hinterrupted, Except.error.injEq,
      ReadFailure.source.injEq] at hparse
    obtain ⟨before, after, loops, hpending, -⟩ := hinterrupted
    subst hparse
    exact .inr (.inl (by simp [hpending]))
  · rw [Program.ofStream_of_unclosed hunclosed, Except.error.injEq, ReadFailure.source.injEq] at hparse
    refine .inr (.inr ?_)
    rw [← hparse, Lexer.stream, String.length_toList]

lemma ReadsInPlace.pos_of_parse (h : lexer.ReadsInPlace) {e : ParseError}
    (hparse : lexer.parse source = .error (.source e)) : 0 ≤ e.pos ∧ e.pos ≤ source.length := by
  obtain ⟨tail, htail, rfl⟩ | hfault | rfl := error_cases hparse
  · exact h.pos_of_mem_pending htail
  · exact h.pos_of_mem_pending hfault
  · simp

end Lexer

/-! ## Excerpts -/

/-- A line of a text as it is shown, behind a mark and its number. -/
def shownLine (text : List (List Char)) (mark : Char) (number : Nat) : List Char :=
  [mark, ' '] ++ (Text.padLeft 4 (toString number)).toList ++ [' ', '|', ' '] ++ text.getD (number - 1) []

/-- The row below a line that points at a column of it. -/
def shownCaret (column : Nat) : List Char :=
  List.replicate 7 ' ' ++ ['|', ' '] ++ List.replicate (column - 1) ' ' ++ ['^']

/-- The lines `first` to `last` of a text as they are shown: one of them is marked and has a caret below
it. -/
def window (text : List (List Char)) (line column first last : Nat) : List (List Char) :=
  (List.range' first (line - first)).map (shownLine text ' ') ++
    shownLine text '>' line :: shownCaret column ::
      (List.range' (line + 1) (last - line)).map (shownLine text ' ')

section Rows

variable {text : List (List Char)} {line column number count : Nat}

lemma Row.render_line (marked : Bool) (hnumber : number - 1 < text.length) :
    (Row.line number marked text[number - 1]).render.toList =
      shownLine text (if marked then '>' else ' ') number := by
  cases marked <;> simp [Row.render, shownLine, hnumber]

lemma Row.render_caret (column : Nat) : (Row.caret column).render.toList = shownCaret column := by
  have hcolumn : ((column : Int) - 1).toNat = column - 1 := by omega
  simp only [Row.render, Text.blanks, hcolumn, String.toList_append, String.toList_ofList]
  rfl

lemma rowsFrom_append (focus column : Int) (number : Nat) (first second : List (List Char)) :
    rowsFrom focus column number (first ++ second) =
      rowsFrom focus column number first ++ rowsFrom focus column (number + first.length) second := by
  induction first generalizing number with
  | nil => rfl
  | cons line first ih =>
    simp only [List.cons_append, rowsFrom, ih, List.append_assoc, List.length_cons, Nat.add_assoc,
      Nat.add_comm 1]

/-- Lines that do not hold the focus are shown without a mark. -/
lemma rowsFrom_of_ne {focus : Int} (column : Int) (hnumber : 1 ≤ number)
    (hcount : number + count ≤ text.length + 1)
    (hfocus : ∀ n, number ≤ n → n < number + count → (n : Int) ≠ focus) :
    (rowsFrom focus column number ((text.drop (number - 1)).take count)).map (·.render.toList) =
      (List.range' number count).map (shownLine text ' ') := by
  induction count generalizing number with
  | zero => simp [rowsFrom]
  | succ count ih =>
    have hhere : number - 1 < text.length := by omega
    have hnext : number - 1 + 1 = number := by omega
    have hne : ¬ (number : Int) = focus := hfocus number (Nat.le_refl _) (by omega)
    have hrest : (rowsFrom focus column (number + 1) ((text.drop number).take count)).map
        (·.render.toList) = (List.range' (number + 1) count).map (shownLine text ' ') :=
      ih (by omega) (by omega) fun n hlow hhigh => hfocus n (by omega) (by omega)
    rw [List.drop_eq_getElem_cons hhere, hnext, List.take_succ_cons, List.range'_succ]
    simp only [rowsFrom, hne, decide_false, Bool.false_eq_true, if_false, List.nil_append,
      List.map_cons, hrest, Row.render_line]

/-- **An excerpt is a window.** -/
lemma excerpt_eq_window (column context : Nat) (hline : 1 ≤ line) (hle : line ≤ text.length) :
    (excerpt text ⟨line, column⟩ context).map (·.render.toList) =
      window text line column (max 1 (line - context)) (min text.length (line + context)) := by
  have hfocus : focusLine text line = line := by
    rw [focusLine]
    omega
  generalize hfirst : max 1 (line - context) = first
  generalize hlast : min text.length (line + context) = last
  have hfirst' : (max 1 ((line : Int) - context)).toNat = first := by omega
  have hsize : (min (text.length : Int) (line + context) - max 1 ((line : Int) - context) + 1).toNat =
      line - first + (1 + (last - line)) := by omega
  have hhere : line - 1 < text.length := by omega
  have hnext : line - 1 + 1 = line := by omega
  have hplace : first - 1 + (line - first) = line - 1 := by omega
  have hnumber : first + (line - first) = line := by omega
  have hbefore : ((text.drop (first - 1)).take (line - first)).length = line - first := by
    rw [List.length_take, List.length_drop]
    omega
  have hbehind : (rowsFrom line column (line + 1) ((text.drop line).take (last - line))).map
      (·.render.toList) = (List.range' (line + 1) (last - line)).map (shownLine text ' ') :=
    rowsFrom_of_ne _ (by omega) (by omega) fun n hlow _ => by omega
  -- the lines before the focus, the focus, and the lines behind it
  rw [excerpt, hfocus, hfirst', hsize, List.take_add, List.drop_drop, hplace, rowsFrom_append, hbefore,
    hnumber, List.drop_eq_getElem_cons hhere, hnext, Nat.add_comm 1, List.take_succ_cons, rowsFrom,
    List.map_append, rowsFrom_of_ne _ (by omega) (by omega) fun n _ hhigh => by omega]
  simp only [decide_true, if_true, List.map_cons, List.singleton_append, Row.render_line,
    Row.render_caret, hbehind, window]

/-! ### Rows are lines -/

lemma newline_notMem_shownLine {mark : Char} (hmark : mark ≠ '\n')
    (htext : ∀ l ∈ text, '\n' ∉ l) (number : Nat) : '\n' ∉ shownLine text mark number := by
  have hdigits : '\n' ∉ Nat.toDigits 10 number := by
    intro hmem
    exact absurd (Nat.isDigit_of_mem_toDigits (by decide) (by decide) hmem) (by decide)
  have hline : '\n' ∉ text[number - 1]?.getD [] := by
    cases hget : text[number - 1]? with
    | none => simp
    | some l => exact htext l (List.mem_of_getElem? hget)
  simp [shownLine, Text.padLeft, Text.blanks, hmark.symm, hdigits, hline]

lemma newline_notMem_shownCaret (column : Nat) : '\n' ∉ shownCaret column := by
  simp [shownCaret]

lemma newline_notMem_of_mem_window {first last : Nat} {row : List Char}
    (htext : ∀ l ∈ text, '\n' ∉ l) (hrow : row ∈ window text line column first last) : '\n' ∉ row := by
  simp only [window, List.mem_append, List.mem_cons, List.mem_map] at hrow
  obtain ⟨number, -, rfl⟩ | rfl | rfl | ⟨number, -, rfl⟩ := hrow
  · exact newline_notMem_shownLine (by decide) htext number
  · exact newline_notMem_shownLine (by decide) htext line
  · exact newline_notMem_shownCaret column
  · exact newline_notMem_shownLine (by decide) htext number

lemma splitOn_excerptText (source : List Char) (column context : Nat) (hline : 1 ≤ line)
    (hle : line ≤ (lines source).length) :
    (excerptText (lines source) ⟨line, column⟩ context).toList.splitOn '\n' =
      window (lines source) line column (max 1 (line - context))
        (min (lines source).length (line + context)) := by
  have hrows : ((excerpt (lines source) ⟨line, column⟩ context).map Row.render).map String.toList = _ :=
    List.map_map.trans (excerpt_eq_window column context hline hle)
  rw [excerptText, String.toList_intercalate, hrows]
  apply List.splitOn_intercalate
  · intro row hrow
    exact newline_notMem_of_mem_window (fun l => newline_notMem_of_mem_lines) hrow
  · simp [window]

end Rows

/-! ## Reports -/

namespace ParseError

/-- The parts of a report, for a place that is in the source. -/
lemma describe_eq {e : ParseError} {source : String} {line column : Nat}
    (h : Place.ofPos source.toList e.pos = ⟨line, column⟩) :
    e.describe source =
      "ParseError: " ++ e.message ++ " (line " ++ toString line ++ ", column " ++ toString column
        ++ ")\n" ++ excerptText (lines source.toList) ⟨line, column⟩ (2 : Nat)
        ++ e.hint?.elim "" ("\nHint: " ++ ·) := by
  have hshow (n : Nat) : toString (n : Int) = toString n := rfl
  have hcontext : reportContext = (2 : Nat) := rfl
  unfold describe
  simp only [h, hshow, hcontext]
  cases e.hint? <;> rfl

/-- **A report shows the place of an error.**  The lexer may be that of any table of symbols or that of a
known language.  An error that comes from reading a source blames a position in it.  The line and the
column that the report gives are in the source and stand for that position; then come the lines from two
before to two behind, as far as the source has them, in their order and each once, with a mark at the line
alone and one caret right below it. -/
theorem describe_shows_place (lexer : Lexer)
    (hlexer : (∃ table : SymbolTable, lexer = table.lexer) ∨
      ∃ language : Language, lexer = language.lexer)
    (source : String) (e : ParseError) (h : lexer.parse source = .error (.source e)) :
    (0 ≤ e.pos ∧ e.pos ≤ source.length) ∧
    ∃ (line column : Nat) (block : String),
      e.describe source =
        "ParseError: " ++ e.message ++ " (line " ++ toString line ++ ", column " ++ toString column
          ++ ")\n" ++ block ++ e.hint?.elim "" ("\nHint: " ++ ·) ∧
      Locates (source.toList.splitOn '\n') e.pos line column ∧
      block.toList.splitOn '\n' =
        window (source.toList.splitOn '\n') line column (max 1 (line - 2))
          (min (source.toList.splitOn '\n').length (line + 2)) := by
  have hplace : lexer.ReadsInPlace := by
    obtain ⟨table, rfl⟩ | ⟨_ | _, rfl⟩ := hlexer
    · exact table.readsInPlace
    · exact brainfuckTable.readsInPlace
    · exact Ook.readsInPlace
  obtain ⟨hlow, hhigh⟩ := hplace.pos_of_parse h
  obtain ⟨pos, hpos⟩ := Int.eq_ofNat_of_zero_le hlow
  have hinside : pos ≤ source.toList.length := by
    rw [String.length_toList]
    omega
  obtain ⟨line, column, hofPos, hlocates⟩ := Place.ofPos_locates hinside
  rw [← hpos] at hofPos hlocates
  rw [← lines_eq_splitOn]
  exact ⟨⟨hlow, hhigh⟩, line, column, _, describe_eq hofPos, hlocates,
    splitOn_excerptText source.toList column 2 hlocates.line_pos hlocates.line_le⟩

/-- A tail that closes no loop, in the third of four lines: all four are shown. -/
theorem stray_tail_shows_place :
    Language.brainfuck.lexer.parse "+\n\n.]\n," = .error (.source ⟨.unopenedLoop, 4⟩) ∧
    ∃ (line column : Nat) (block : String),
      describe ⟨.unopenedLoop, 4⟩ "+\n\n.]\n," =
        "ParseError: 4: Unexpected end-of-loop (line " ++ toString line ++ ", column "
          ++ toString column ++ ")\n" ++ block
          ++ "\nHint: A loop tail appeared outside of any loop. Check for a missing loop head." ∧
      Locates [['+'], [], ['.', ']'], [',']] 4 line column ∧
      block.toList.splitOn '\n' =
        window [['+'], [], ['.', ']'], [',']] line column (max 1 (line - 2)) (min 4 (line + 2)) := by
  have hunopened : (Language.brainfuck.lexer.stream "+\n\n.]\n,").Unopened ⟨.loopTail, "]", 4⟩ :=
    ⟨[⟨.dataUp, "+", 0⟩, ⟨.output, ".", 3⟩], [.ok ⟨.input, ",", 6⟩], rfl, rfl, rfl⟩
  have hparse := Program.ofStream_of_unopened hunopened
  obtain ⟨-, line, column, block, hdescribe, hlocates, hblock⟩ :=
    describe_shows_place Language.brainfuck.lexer (.inr ⟨_, rfl⟩) "+\n\n.]\n," _ hparse
  exact ⟨hparse, line, column, block, hdescribe, hlocates, hblock⟩

end ParseError

end TapeLang
