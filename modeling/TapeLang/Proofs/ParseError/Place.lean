import Mathlib.Algebra.GroupWithZero.Nat
import Mathlib.Data.List.Induction
import Mathlib.Tactic.Common
import TapeLang.ParseError.Report

/-!
# The line and column of a position

A position counts characters from the beginning of a text, newlines included.  `Place.ofPos` finds its
line by counting the newlines before it and its column by the length of what stands behind the last of
them.  Cutting the text at the position says why that is right: what comes before the cut settles the
lines before, and the part of the line that the position is in.

* `lines_eq_splitOn`: the lines of a text are what is left when it is cut at its newlines.
* `exists_lines_append`: the lines of a text that is put together from two.
* `Locates`: a line and a column that stand for a position.
* `Place.ofPos_locates`: `Place.ofPos` finds them.
-/

namespace TapeLang

/-! ## Lines -/

lemma lines_eq_splitOn (text : List Char) : lines text = text.splitOn '\n' := by
  induction text with
  | nil => rfl
  | cons c rest ih =>
    rw [lines, List.splitOn_cons_eq_if_modifyHead, ih]
    by_cases hc : c = '\n'
    · rw [if_pos hc, if_pos (beq_iff_eq.mpr hc)]
    · rw [if_neg hc, if_neg (by simpa using hc)]
      cases hrest : rest.splitOn '\n' with
      | nil => exact absurd hrest (List.splitOn_ne_nil '\n' rest)
      | cons line more => rfl

lemma lines_newline (text : List Char) : lines ('\n' :: text) = [] :: lines text := by
  rw [lines, if_pos rfl]

lemma exists_lines_cons {c : Char} (hc : c ≠ '\n') (text : List Char) :
    ∃ line more, lines text = line :: more ∧ lines (c :: text) = (c :: line) :: more := by
  cases htext : lines text with
  | nil => exact absurd htext (lines_eq_splitOn text ▸ List.splitOn_ne_nil '\n' text)
  | cons line more => exact ⟨line, more, rfl, by rw [lines, if_neg hc, htext]⟩

/-- A line has no newline in it. -/
lemma newline_notMem_of_mem_lines {text line : List Char} (h : line ∈ lines text) : '\n' ∉ line := by
  induction text generalizing line with
  | nil =>
    rw [lines, List.mem_singleton] at h
    simp [h]
  | cons c rest ih =>
    by_cases hc : c = '\n'
    · rw [hc, lines_newline, List.mem_cons] at h
      obtain rfl | h := h
      · simp
      · exact ih h
    · obtain ⟨first, more, hrest, hlines⟩ := exists_lines_cons hc rest
      rw [hlines, List.mem_cons] at h
      obtain rfl | h := h
      · have hfirst := ih (hrest ▸ List.mem_cons_self)
        simp [hfirst, Ne.symm hc]
      · exact ih (hrest ▸ List.mem_cons_of_mem _ h)

/-! ## Cutting a text at a position -/

/-- The number of characters that lines take up, each with its newline. -/
def extent (text : List (List Char)) : Nat :=
  (text.map fun line => line.length + 1).sum

lemma extent_concat (text : List (List Char)) (line : List Char) :
    extent (text ++ [line]) = extent text + line.length + 1 := by
  simp [extent, Nat.add_assoc]

lemma lastLineLength_concat (text : List Char) (c : Char) :
    lastLineLength (text ++ [c]) = if c = '\n' then 0 else lastLineLength text + 1 := by
  by_cases hc : c = '\n' <;> simp [lastLineLength, hc]

/-- **What stands before a cut settles the lines before it.**  Its newlines end them, and what is behind
the last newline begins the line that goes on behind the cut. -/
lemma exists_lines_append (before : List Char) :
    ∃ earlier start, (∀ after first more, lines after = first :: more →
        lines (before ++ after) = earlier ++ (start ++ first) :: more) ∧
      earlier.length = before.count '\n' ∧ start.length = lastLineLength before ∧
      before.length = extent earlier + start.length := by
  -- from the right: the last character before the cut is the first one behind a shorter text
  induction before using List.reverseRecOn with
  | nil => exact ⟨[], [], fun after first more h => h, rfl, rfl, rfl⟩
  | append_singleton before c ih =>
    obtain ⟨earlier, start, hlines, hcount, hstart, hlength⟩ := ih
    by_cases hc : c = '\n'
    · subst hc
      refine ⟨earlier ++ [start], [], fun after first more h => ?_, ?_, ?_, ?_⟩
      · rw [List.append_assoc, List.singleton_append, hlines _ _ _ (lines_newline after), h]
        simp
      · simp [hcount]
      · rw [lastLineLength_concat, if_pos rfl, List.length_nil]
      · rw [extent_concat, List.length_append, hlength, List.length_singleton, List.length_nil,
          Nat.add_zero]
    · refine ⟨earlier, start ++ [c], fun after first more h => ?_, ?_, ?_, ?_⟩
      · obtain ⟨line, others, hafter, hcons⟩ := exists_lines_cons hc after
        obtain ⟨rfl, rfl⟩ := List.cons.inj (hafter.symm.trans h)
        rw [List.append_assoc, List.singleton_append, hlines _ _ _ hcons]
        simp
      · simp [hcount, hc]
      · rw [lastLineLength_concat, if_neg hc, List.length_append, hstart, List.length_singleton]
      · simp only [List.length_append, List.length_singleton, hlength]
        omega

/-! ## Places -/

/-- The line and the column, both counted from one, are in the text, and stand for the position: it is
behind the lines before, and as far behind them as the column says. -/
structure Locates (text : List (List Char)) (pos : Int) (line column : Nat) : Prop where
  line_pos : 1 ≤ line
  line_le : line ≤ text.length
  column_pos : 1 ≤ column
  /-- The column may be the one behind the end of the line. -/
  column_le : column ≤ (text.getD (line - 1) []).length + 1
  pos_eq : (extent (text.take (line - 1)) + (column - 1) : Nat) = pos

lemma Place.ofPos_locates {source : List Char} {pos : Nat} (h : pos ≤ source.length) :
    ∃ line column : Nat, Place.ofPos source pos = ⟨line, column⟩ ∧
      Locates (lines source) pos line column := by
  obtain ⟨earlier, start, hlines, hcount, hstart, hlength⟩ := exists_lines_append (source.take pos)
  obtain ⟨first, more, hafter⟩ : ∃ first more, lines (source.drop pos) = first :: more :=
    List.exists_cons_of_ne_nil (lines_eq_splitOn _ ▸ List.splitOn_ne_nil _ _)
  have hsource := hlines _ _ _ hafter
  rw [List.take_append_drop] at hsource
  have hbefore : textBefore source pos = source.take pos := by
    rw [textBefore, if_neg (by omega), Int.toNat_natCast]
  have hpos : (source.take pos).length = pos := List.length_take_of_le h
  refine ⟨earlier.length + 1, start.length + 1, ?_, ?_⟩
  · simp only [Place.ofPos, hbefore, hpos, ← hcount, ← hstart, Place.mk.injEq]
    omega
  · rw [hsource]
    refine ⟨by omega, by simp, by omega, by simp, ?_⟩
    simp only [Nat.add_sub_cancel, List.take_left, ← hlength, hpos]

end TapeLang
