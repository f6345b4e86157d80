import TapeLang.Lexer.Rules
import TapeLang.Proofs.ParseError.Report
import TapeLang.Proofs.Text.Column
import TapeLang.Proofs.Text.Integer

/-!
# Where the caret of a report points

Below the line that is blamed, a report has a row with a caret.  The blanks in front of the caret make up
for a line number of four digits.  A longer number pushes its line to the right, and the caret stays behind.

* `ShownAt`: where a row of a report shows a position of the source.
* `ParseError.PointsBefore`, `ParseError.PointsAt`: where the caret is, against where it should be.
* `Lexer.ErrsInOneRow.message_of_parse`: the wording of an error takes one row, so nothing in the heading can
  pass for the marked line.
* `ParseError.exists_pointsBefore`: the caret falls behind by as many digits as a line number has beyond four.
* **`ParseError.caret_points_iff`**: the reports whose carets point at the position that is blamed.
-/

namespace TapeLang

/-! ## What it means to point -/

/-- The row shows a position of the source at an index.  It has the same character there, or ends there if the
position is at the end of a line or of the source; and it goes on as the line does. -/
structure ShownAt (source : List Char) (pos : Nat) (row : List Char) (index : Nat) : Prop where
  index_le : index ≤ row.length
  getElem?_eq : row[index]? = source[pos]?.filter (· ≠ '\n')
  drop_eq : row.drop index = (source.drop pos).takeWhile (· ≠ '\n')

lemma ShownAt.unique {source row : List Char} {pos index index' : Nat}
    (h : ShownAt source pos row index) (h' : ShownAt source pos row index') : index = index' := by
  have hlength := congrArg List.length (h.drop_eq.trans h'.drop_eq.symm)
  rw [List.length_drop, List.length_drop] at hlength
  have := h.index_le
  have := h'.index_le
  omega

namespace ParseError

/-- The report has one row with a mark.  The row below it has one caret, and so many columns to the right of
that the marked row shows the position that is blamed. -/
def PointsBefore (e : ParseError) (source : String) (gap : Nat) : Prop :=
  ∃ (before after : List (List Char)) (marked caret : List Char) (index : Nat),
    (e.describe source).toList.splitOn '\n' = before ++ marked :: caret :: after ∧
    marked.head? = some '>' ∧ (∀ row ∈ before ++ caret :: after, row.head? ≠ some '>') ∧
    (∀ place, caret[place]? = some '^' ↔ place = index) ∧
    ShownAt source.toList e.pos.toNat marked (index + gap)

/-- The caret of the report points at the position that is blamed. -/
def PointsAt (e : ParseError) (source : String) : Prop :=
  e.PointsBefore source 0

/-- A report points to one place only. -/
lemma PointsBefore.unique {e : ParseError} {source : String} {gap gap' : Nat}
    (h : e.PointsBefore source gap) (h' : e.PointsBefore source gap') : gap = gap' := by
  obtain ⟨before, after, marked, caret, index, hrows, hmarked, hothers, hcaret, hshown⟩ := h
  obtain ⟨before', after', marked', caret', index', hrows', hmarked', hothers', hcaret', hshown'⟩ := h'
  -- both splits of the rows are where the first row with a mark is
  have hfirst : ∀ {before after : List (List Char)} {marked caret : List Char},
      marked.head? = some '>' → (∀ row ∈ before ++ caret :: after, row.head? ≠ some '>') →
      (before ++ marked :: caret :: after).dropWhile (·.head? ≠ some '>') =
        marked :: caret :: after := by
    intro before after marked caret hmarked hothers
    rw [List.dropWhile_append_of_pos, List.dropWhile_cons_of_neg (by simp [hmarked])]
    intro row hrow
    exact decide_eq_true (hothers row (List.mem_append_left _ hrow))
  have hsame := hfirst hmarked hothers
  rw [← hrows, hrows', hfirst hmarked' hothers', List.cons.injEq, List.cons.injEq] at hsame
  obtain ⟨rfl, rfl, rfl⟩ := hsame
  obtain rfl : index' = index := (hcaret index').mp ((hcaret' index').mpr rfl)
  exact Nat.add_left_cancel (hshown.unique hshown')

end ParseError

/-! ## Lines from a position on -/

/-- What a line has from a column on is what the source has from there to the next newline. -/
lemma drop_of_getElem?_lines {source line : List Char} {index column : Nat}
    (h : (lines source)[index]? = some line) (hcolumn : column ≤ line.length) :
    line.drop column =
      (source.drop (extent ((lines source).take index) + column)).takeWhile (· ≠ '\n') := by
  induction source generalizing line index column with
  | nil =>
    rw [lines, List.getElem?_singleton] at h
    split_ifs at h
    obtain rfl := Option.some.inj h
    simp
  | cons c rest ih =>
    by_cases hc : c = '\n'
    · subst hc
      rw [lines_newline] at h ⊢
      cases index with
      | zero =>
        obtain rfl := Option.some.inj h
        obtain rfl := Nat.le_zero.mp hcolumn
        simp [extent]
      | succ index =>
        have hstart : extent ((([] : List Char) :: lines rest).take (index + 1)) + column =
            extent ((lines rest).take index) + column + 1 := by
          simp [extent]
          omega
        rw [hstart, List.drop_succ_cons]
        exact ih h hcolumn
    · obtain ⟨first, more, hrest, hlines⟩ := exists_lines_cons hc rest
      rw [hlines] at h ⊢
      cases index with
      | zero =>
        obtain rfl := Option.some.inj h
        have hfirst : (lines rest)[0]? = some first := by rw [hrest]; rfl
        cases column with
        | zero =>
          have hwhole := ih hfirst (Nat.zero_le _)
          simp only [List.take_zero, extent, List.map_nil, List.sum_nil, Nat.add_zero, List.drop_zero]
            at hwhole ⊢
          rw [List.takeWhile_cons_of_pos (by simpa using hc), ← hwhole]
        | succ column =>
          have hfrom := ih hfirst (Nat.le_of_succ_le_succ hcolumn)
          simpa [extent] using hfrom
      | succ index =>
        have hstart : extent (((c :: first) :: more).take (index + 1)) + column =
            extent ((lines rest).take (index + 1)) + column + 1 := by
          simp [extent, hrest]
          omega
        have hline : (lines rest)[index + 1]? = some line := by rw [hrest]; exact h
        rw [hstart, List.drop_succ_cons]
        exact ih hline hcolumn

/-! ## The wording of an error -/

namespace Lexer

/-- The wording of an error takes one row. -/
def ErrsInOneRow (lexer : Lexer) : Prop :=
  ∀ cursor e next, lexer.step cursor = some (.error e, next) → '\n' ∉ e.message.toList

lemma exists_step_of_mem_readings {lexer : Lexer} {limit : Nat} {cursor : Cursor} {reading : Reading}
    (h : reading ∈ lexer.readings limit cursor) :
    ∃ here next, lexer.step here = some (reading, next) := by
  induction limit generalizing cursor with
  | zero => simp [readings] at h
  | succ limit ih =>
    rw [readings] at h
    split at h
    · simp at h
    · next first next hstep =>
      rw [List.mem_cons] at h
      obtain rfl | h := h
      · exact ⟨cursor, next, hstep⟩
      · exact ih h

end Lexer

lemma SymbolTable.errsInOneRow (table : SymbolTable) : table.lexer.ErrsInOneRow := by
  intro cursor e next hstep
  obtain ⟨found, -, heq⟩ := Option.map_eq_some_iff.mp hstep
  simp at heq

lemma Rule.errsInOneRow (rules : List Rule) : (Rule.lexer rules).ErrsInOneRow := by
  intro cursor e next hstep
  obtain ⟨found, -, heq⟩ := Option.map_eq_some_iff.mp hstep
  simp at heq

namespace ParseError

lemma newline_notMem_message {cause : ParseCause} {pos : Int}
    (hdetail : ∀ detail, cause = .language detail → '\n' ∉ detail.toList)
    (hother : ∀ message, cause ≠ .other message) : '\n' ∉ (message ⟨cause, pos⟩).toList := by
  have hpos := Text.notMem_toString (c := '\n') (by decide) (by decide) pos
  rw [Int.toString_eq_repr] at hpos
  cases cause with
  | unclosedLoop => simp [message, hpos]
  | unopenedLoop => simp [message, hpos]
  | language detail => simp [message, hpos, hdetail detail rfl]
  | other text => exact absurd rfl (hother text)

lemma newline_notMem_hint {e : ParseError} {advice : String} (h : e.hint? = some advice) :
    '\n' ∉ advice.toList := by
  rw [hint?] at h
  split at h
  · obtain rfl := Option.some.inj h
    decide
  · obtain rfl := Option.some.inj h
    decide
  · split_ifs at h
    obtain rfl := Option.some.inj h
    decide
  · simp at h

end ParseError

lemma Ook.errsInOneRow : Ook.lexer.ErrsInOneRow := by
  intro cursor e next hstep
  have hfault : e.cause = .language "Odd number of Ook tokens" ∨
      e.cause = .language "Ook? Ook?: bad Ook sequence" := by
    have hpair : readPair cursor = some (.error e, next) := hstep
    unfold readPair at hpair
    split at hpair
    · simp at hpair
    · split at hpair
      · simp only [Option.some.injEq, Prod.mk.injEq, Except.error.injEq] at hpair
        simp [← hpair.1]
      · split at hpair
        · simp only [Option.some.injEq, Prod.mk.injEq, Except.error.injEq] at hpair
          simp [← hpair.1]
        · simp at hpair
  obtain ⟨cause, pos⟩ := e
  apply ParseError.newline_notMem_message
  · rintro detail rfl
    obtain hdetail | hdetail := hfault
    · simp [ParseCause.language.inj hdetail]
    · simp [ParseCause.language.inj hdetail]
  · rintro text rfl
    simp at hfault

lemma Lexer.ErrsInOneRow.message_of_parse {lexer : Lexer} {source : String} {e : ParseError}
    (h : lexer.ErrsInOneRow) (hparse : lexer.parse source = .error (.source e)) :
    '\n' ∉ e.message.toList := by
  obtain ⟨tail, -, rfl⟩ | hfault | rfl := error_cases hparse
  · exact ParseError.newline_notMem_message (by simp) (by simp)
  · obtain ⟨here, next, hstep⟩ := exists_step_of_mem_readings hfault
    exact h here e next hstep
  · exact ParseError.newline_notMem_message (by simp) (by simp)

/-! ## The rows of a report -/

/-- Only one line of a window has a mark. -/
lemma exists_window_eq (text : List (List Char)) (line column first last : Nat) :
    ∃ above below,
      window text line column first last =
        above ++ shownLine text '>' line :: shownCaret column :: below ∧
      (∀ row ∈ above, row.head? ≠ some '>') ∧
      ∀ row ∈ shownCaret column :: below, row.head? ≠ some '>' := by
  have hplain (numbers : List Nat) : ∀ row ∈ numbers.map (shownLine text ' '), row.head? ≠ some '>' := by
    simp [shownLine]
  refine ⟨_, _, rfl, hplain _, List.forall_mem_cons.mpr ⟨?_, hplain _⟩⟩
  simp [shownCaret, List.replicate_succ]

lemma getElem?_shownCaret {column : Nat} (hcolumn : 1 ≤ column) (place : Nat) :
    (shownCaret column)[place]? = some '^' ↔ place = column + 8 := by
  have hlength : (List.replicate 7 ' ' ++ ['|', ' '] ++ List.replicate (column - 1) ' ').length =
      column + 8 := by
    simp only [List.length_append, List.length_replicate, List.length_cons, List.length_nil]
    omega
  have hblanks : ∀ {i : Nat}, (List.replicate 7 ' ' ++ ['|', ' '] ++
      List.replicate (column - 1) ' ')[i]? ≠ some '^' := by
    intro i h
    have hmem := List.mem_of_getElem? h
    simp at hmem
  rw [shownCaret, List.getElem?_append, hlength]
  split_ifs with hplace
  · simp only [hblanks, false_iff]
    omega
  · rw [List.getElem?_singleton]
    split_ifs with hend
    · simp only [true_iff]
      omega
    · simp only [false_iff]
      omega

/-- A line begins behind nine characters, or more if its number has more than four digits. -/
lemma exists_shownLine_eq (text : List (List Char)) (mark : Char) (number : Nat) :
    ∃ head : List Char, shownLine text mark number = head ++ text.getD (number - 1) [] ∧
      head.length = 9 + ((toString number).length - 4) := by
  refine ⟨_, rfl, ?_⟩
  simp only [Text.toList_padLeft, List.length_append, List.length_cons, List.length_nil,
    List.length_replicate, String.length_toList]
  omega

lemma shownAt_shownLine {source : List Char} {pos line column : Nat}
    (h : Locates (lines source) pos line column) (mark : Char) :
    ShownAt source pos (shownLine (lines source) mark line)
      (column + 8 + ((toString line).length - 4)) := by
  obtain ⟨hline_pos, hline_le, hcolumn_pos, hcolumn_le, hpos_eq⟩ := h
  obtain ⟨head, hrow, hhead⟩ := exists_shownLine_eq (lines source) mark line
  have hline : line - 1 < (lines source).length := by omega
  have hget : (lines source)[line - 1]? = some ((lines source).getD (line - 1) []) := by
    rw [List.getD_eq_getElem?_getD, List.getElem?_eq_getElem hline, Option.getD_some]
  have hcolumn : column - 1 ≤ ((lines source).getD (line - 1) []).length := by omega
  have hpos : extent ((lines source).take (line - 1)) + (column - 1) = pos := Int.ofNat_inj.mp hpos_eq
  have hindex : column + 8 + ((toString line).length - 4) = head.length + (column - 1) := by omega
  have hdrop : (head ++ (lines source).getD (line - 1) []).drop (head.length + (column - 1)) =
      (source.drop pos).takeWhile (· ≠ '\n') := by
    rw [List.drop_length_add_append, drop_of_getElem?_lines hget hcolumn, hpos]
  rw [hindex, hrow]
  refine ⟨?_, ?_, hdrop⟩
  · rw [List.length_append]
    exact Nat.add_le_add_left hcolumn _
  · rw [← List.head?_drop, hdrop, List.head?_takeWhile, List.head?_drop]

namespace ParseError

/-- The first row of a report. -/
def heading (e : ParseError) (line column : Nat) : String :=
  "ParseError: " ++ e.message ++ " (line " ++ toString line ++ ", column " ++ toString column ++ ")"

lemma newline_notMem_heading {e : ParseError} (h : '\n' ∉ e.message.toList) (line column : Nat) :
    '\n' ∉ (e.heading line column).toList := by
  have hnumber (n : Nat) : '\n' ∉ (toString n).toList :=
    Text.notMem_toString (by decide) (by decide) n
  have happend {left right : String} (hleft : '\n' ∉ left.toList) (hright : '\n' ∉ right.toList) :
      '\n' ∉ (left ++ right).toList := by
    rw [String.toList_append, List.mem_append, not_or]
    exact ⟨hleft, hright⟩
  unfold heading
  refine happend (happend (happend (happend (happend (happend ?_ h) ?_) (hnumber line)) ?_)
    (hnumber column)) ?_
  all_goals decide

lemma head?_heading (e : ParseError) (line column : Nat) :
    (e.heading line column).toList.head? = some 'P' := by
  unfold heading
  simp

/-- The heading is one row, and so is a hint. -/
lemma exists_rows {e : ParseError} {source : String} {line column : Nat}
    (hmessage : '\n' ∉ e.message.toList)
    (hplace : Place.ofPos source.toList e.pos = ⟨line, column⟩)
    (hlocates : Locates (lines source.toList) e.pos line column) :
    ∃ hints, (e.describe source).toList.splitOn '\n' =
        (e.heading line column).toList :: (window (lines source.toList) line column (max 1 (line - 2))
          (min (lines source.toList).length (line + 2)) ++ hints) ∧
      ∀ row ∈ hints, row.head? ≠ some '>' := by
  have hblock := splitOn_excerptText source.toList column 2 hlocates.line_pos hlocates.line_le
  have htext : (e.describe source).toList =
      (e.heading line column).toList ++ '\n' ::
        ((excerptText (lines source.toList) ⟨line, column⟩ (2 : Nat)).toList ++
          (e.hint?.elim "" ("\nHint: " ++ ·)).toList) := by
    rw [describe_eq hplace]
    unfold heading
    simp
  rw [htext, List.splitOn_append_cons_self_of_not_mem (newline_notMem_heading hmessage line column)]
  cases hhint : e.hint? with
  | none =>
    refine ⟨[], ?_, by simp⟩
    rw [Option.elim_none, String.toList_empty, List.append_nil, List.append_nil, hblock]
  | some advice =>
    have hadvice : '\n' ∉ 'H' :: 'i' :: 'n' :: 't' :: ':' :: ' ' :: advice.toList := by
      simp [newline_notMem_hint hhint]
    have hrow : ("\nHint: " ++ advice).toList =
        '\n' :: 'H' :: 'i' :: 'n' :: 't' :: ':' :: ' ' :: advice.toList := by simp
    refine ⟨['H' :: 'i' :: 'n' :: 't' :: ':' :: ' ' :: advice.toList], ?_, by simp⟩
    rw [Option.elim_some, hrow, List.splitOn_append_cons_self, hblock,
      List.splitOn_eq_singleton hadvice]

/-- The caret falls behind by the digits that the number of the line has more than four. -/
lemma exists_pointsBefore {e : ParseError} {source : String} (hlow : 0 ≤ e.pos)
    (hhigh : e.pos ≤ source.length) (hmessage : '\n' ∉ e.message.toList) :
    ∃ line column : Nat, Place.ofPos source.toList e.pos = ⟨line, column⟩ ∧
      Locates (lines source.toList) e.pos line column ∧
      e.PointsBefore source ((toString line).length - 4) := by
  obtain ⟨pos, hpos⟩ := Int.eq_ofNat_of_zero_le hlow
  have hinside : pos ≤ source.toList.length := by
    rw [String.length_toList]
    omega
  obtain ⟨line, column, hplace, hlocates⟩ := Place.ofPos_locates hinside
  have hshown := shownAt_shownLine hlocates '>'
  rw [← Int.toNat_natCast pos, ← hpos] at hshown
  rw [← hpos] at hplace hlocates
  obtain ⟨hints, hrows, hhints⟩ := exists_rows hmessage hplace hlocates
  obtain ⟨above, below, hwindow, habove, hbelow⟩ := exists_window_eq (lines source.toList) line column
    (max 1 (line - 2)) (min (lines source.toList).length (line + 2))
  refine ⟨line, column, hplace, hlocates, (e.heading line column).toList :: above, below ++ hints, _, _,
    column + 8, ?_, rfl, ?_, getElem?_shownCaret hlocates.column_pos, hshown⟩
  · rw [hrows, hwindow]
    simp
  · intro row hrow
    simp only [List.cons_append, List.mem_cons, List.mem_append] at hrow
    rw [List.forall_mem_cons] at hbelow
    obtain rfl | hrow | rfl | hrow | hrow := hrow
    · simp [head?_heading]
    · exact habove row hrow
    · exact hbelow.1
    · exact hbelow.2 row hrow
    · exact hhints row hrow

/-- Line numbers have up to four digits as long as they are below ten thousand. -/
lemma PointsBefore.pointsAt_iff {e : ParseError} {source : String} {line : Nat}
    (h : e.PointsBefore source ((toString line).length - 4)) : e.PointsAt source ↔ line < 10000 := by
  have hdigits : (toString line).length ≤ 4 ↔ line < 10000 :=
    Text.length_toString_nat_le_iff (by decide) line
  rw [← hdigits, ← Nat.sub_eq_zero_iff_le]
  constructor
  · exact h.unique
  · intro hzero
    rwa [hzero] at h

/-- **Where the caret points.**  The lexer may be that of any table of symbols, of any rules, or of a known
language.  The report on an error that comes from reading a source has one marked row, which shows the line
of the position that is blamed, and a row with one caret below it.  The caret points at the position, or to
the left of it by the digits that the number of the line has more than four.  So it points at the position
if and only if that is in one of the first 9999 lines. -/
theorem caret_points_iff (lexer : Lexer)
    (hlexer : (∃ table : SymbolTable, lexer = table.lexer) ∨
      (∃ rules : List Rule, lexer = Rule.lexer rules) ∨ ∃ language : Language, lexer = language.lexer)
    (source : String) (e : ParseError) (h : lexer.parse source = .error (.source e)) :
    ∃ line column : Nat,
      Locates (source.toList.splitOn '\n') e.pos line column ∧
      e.PointsBefore source ((toString line).length - 4) ∧
      (e.PointsAt source ↔ line < 10000) := by
  have hkind : lexer.ReadsInPlace ∧ lexer.ErrsInOneRow := by
    obtain ⟨table, rfl⟩ | ⟨rules, rfl⟩ | ⟨_ | _, rfl⟩ := hlexer
    · exact ⟨table.readsInPlace, table.errsInOneRow⟩
    · exact ⟨Rule.readsInPlace rules, Rule.errsInOneRow rules⟩
    · exact ⟨brainfuckTable.readsInPlace, brainfuckTable.errsInOneRow⟩
    · exact ⟨Ook.readsInPlace, Ook.errsInOneRow⟩
  obtain ⟨hlow, hhigh⟩ := hkind.1.pos_of_parse h
  obtain ⟨line, column, -, hlocates, hpoints⟩ :=
    exists_pointsBefore hlow hhigh (hkind.2.message_of_parse h)
  rw [← lines_eq_splitOn]
  exact ⟨line, column, hlocates, hpoints, hpoints.pointsAt_iff⟩

/-- A loop that is not closed is blamed on the end of the source, here behind the third line. -/
theorem open_loop_caret_points :
    Language.brainfuck.lexer.parse "++\n[>+\n<-" = .error (.source ⟨.unclosedLoop, 9⟩) ∧
    PointsAt ⟨.unclosedLoop, 9⟩ "++\n[>+\n<-" := by
  have hunclosed : (Language.brainfuck.lexer.stream "++\n[>+\n<-").Unclosed :=
    ⟨[⟨.dataUp, "+", 0⟩, ⟨.dataUp, "+", 1⟩, ⟨.loopHead, "[", 3⟩, ⟨.pointerUp, ">", 4⟩, ⟨.dataUp, "+", 5⟩,
      ⟨.pointerDown, "<", 7⟩, ⟨.dataDown, "-", 8⟩], 0, rfl, rfl⟩
  have hparse := Program.ofStream_of_unclosed hunclosed
  obtain ⟨line, column, hlocates, -, hpoints⟩ := caret_points_iff Language.brainfuck.lexer
    (.inr (.inr ⟨_, rfl⟩)) "++\n[>+\n<-" _ hparse
  have hline : line ≤ 3 := hlocates.line_le
  exact ⟨hparse, hpoints.mpr (by omega)⟩

end ParseError

/-! ### A line with a long number -/

/-- Newlines are no symbols. -/
lemma scan_newlines (count pos : Nat) :
    brainfuckTable.scan (List.replicate count '\n' ++ [']']) pos =
      some (⟨.loopTail, "]", pos + count⟩, ⟨pos + count + 1, []⟩) := by
  induction count generalizing pos with
  | zero => rfl
  | succ count ih =>
    have hskip (rest : List Char) : brainfuckTable.entryAt? ('\n' :: rest) = none := rfl
    have hnext : pos + 1 + count = pos + (count + 1) := by omega
    rw [List.replicate_succ, List.cons_append, SymbolTable.scan, hskip]
    simp only [ih, hnext]

lemma unopened_newlines (count : Nat) :
    (Language.brainfuck.lexer.stream (String.ofList (List.replicate count '\n' ++ [']']))).Unopened
      ⟨.loopTail, "]", count⟩ := by
  refine ⟨[], [], ?_, rfl, rfl⟩
  have hstep : brainfuckTable.lexer.step ⟨0, List.replicate count '\n' ++ [']']⟩ =
      some (.ok ⟨.loopTail, "]", count⟩, ⟨count + 1, []⟩) := by
    simp [SymbolTable.lexer, scan_newlines]
  have hend : brainfuckTable.lexer.readings count ⟨count + 1, []⟩ = [] := by
    cases count with
    | zero => rfl
    | succ count => rfl
  simp only [Lexer.stream, Language.lexer, String.toList_ofList, Cursor.start, List.length_append,
    List.length_replicate, List.length_singleton, Lexer.readings, hstep, hend, List.map_nil,
    List.nil_append]

namespace ParseError

lemma pointsBefore_newlines (count : Nat) :
    PointsBefore ⟨.unopenedLoop, count⟩ (String.ofList (List.replicate count '\n' ++ [']']))
      ((toString (count + 1)).length - 4) := by
  have hmessage : '\n' ∉ (message ⟨.unopenedLoop, count⟩).toList :=
    newline_notMem_message (by simp) (by simp)
  have hhigh : (count : Int) ≤ (String.ofList (List.replicate count '\n' ++ [']'])).length := by simp
  obtain ⟨line, column, hplace, -, hpoints⟩ := exists_pointsBefore (Int.natCast_nonneg count) hhigh hmessage
  have hbefore : textBefore (List.replicate count '\n' ++ [']']) count = List.replicate count '\n' := by
    have hpos : ¬ (count : Int) < 0 := by omega
    rw [textBefore, if_neg hpos, Int.toNat_natCast, List.take_left' List.length_replicate]
  have hline := congrArg Place.line hplace
  simp only [Place.ofPos, String.toList_ofList, hbefore, List.count_replicate_self] at hline
  obtain rfl : line = count + 1 := by omega
  exact hpoints

/-- A tail in line 10000: the caret is one column to the left of it. -/
theorem long_number_caret_misses :
    Language.brainfuck.lexer.parse (String.ofList (List.replicate 9999 '\n' ++ [']'])) =
      .error (.source ⟨.unopenedLoop, 9999⟩) ∧
    PointsBefore ⟨.unopenedLoop, 9999⟩ (String.ofList (List.replicate 9999 '\n' ++ [']'])) 1 ∧
    ¬ PointsAt ⟨.unopenedLoop, 9999⟩ (String.ofList (List.replicate 9999 '\n' ++ [']'])) := by
  have hpoints := pointsBefore_newlines 9999
  refine ⟨Program.ofStream_of_unopened (unopened_newlines 9999), hpoints, fun hpointsAt => ?_⟩
  exact absurd (hpoints.pointsAt_iff.mp hpointsAt) (by decide)

end ParseError

end TapeLang
