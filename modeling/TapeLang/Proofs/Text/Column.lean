import Mathlib.Algebra.Order.BigOperators.Group.List
import Mathlib.Algebra.Order.Ring.Nat
import Mathlib.Tactic.Common
import TapeLang.Text.Column

/-!
# Rows of fields

A row is made of fields, one blank between any two of them, and each field is a text with as many blanks in
front of it as it takes to fill a width.  A text that is wider than that pushes all fields behind it to the
right.

* `words`: what can be seen in a row, which is its parts without blanks, each with the column where it ends.
* `row`, `fields`: the row made of some texts, and the columns where their fields end.
* `words_row`: the words of a row are the texts of its fields, but for the empty ones.
* `getElem?_words_row`: a text ends where it would in a row of narrow texts, and behind that by as much as
  the texts up to it are too wide.
-/

namespace TapeLang.Text

/-! ## Words -/

/-- The words of a row from a column on, where a word has been left open. -/
def wordsFrom (column : Nat) (word : List Char) : List Char → List (List Char × Nat)
  | [] => if word = [] then [] else [(word, column)]
  | c :: rest =>
    if c = ' ' then
      if word = [] then wordsFrom (column + 1) [] rest
      else (word, column) :: wordsFrom (column + 1) [] rest
    else wordsFrom (column + 1) (word ++ [c]) rest

/-- The words of a row, each with the number of characters up to its end. -/
def words (row : List Char) : List (List Char × Nat) :=
  wordsFrom 0 [] row

lemma wordsFrom_blanks (column count : Nat) (rest : List Char) :
    wordsFrom column [] (List.replicate count ' ' ++ rest) = wordsFrom (column + count) [] rest := by
  induction count generalizing column with
  | zero => rfl
  | succ count ih =>
    rw [List.replicate_succ, List.cons_append, wordsFrom, if_pos rfl, if_pos rfl, ih]
    congr 1
    omega

lemma wordsFrom_append {word : List Char} (h : ' ' ∉ word) (column : Nat) (start rest : List Char) :
    wordsFrom column start (word ++ rest) = wordsFrom (column + word.length) (start ++ word) rest := by
  induction word generalizing column start with
  | nil => simp
  | cons c word ih =>
    rw [List.mem_cons, not_or] at h
    rw [List.cons_append, wordsFrom, if_neg (Ne.symm h.1), ih h.2, List.length_cons, List.append_assoc,
      List.singleton_append]
    congr 1
    omega

/-- A blank closes the word that is open. -/
lemma wordsFrom_close (column : Nat) (word rest : List Char) :
    wordsFrom column word (' ' :: rest) =
      (wordsFrom column word []) ++ wordsFrom (column + 1) [] rest := by
  simp only [wordsFrom, if_true]
  split_ifs <;> rfl

/-- Blanks at the end of a row show nothing. -/
lemma wordsFrom_concat_blanks (column : Nat) (word row : List Char) (count : Nat) :
    wordsFrom column word (row ++ List.replicate count ' ') = wordsFrom column word row := by
  induction row generalizing column word with
  | nil =>
    cases count with
    | zero => rfl
    | succ count =>
      have hblanks := wordsFrom_blanks (column + 1) count []
      rw [List.append_nil] at hblanks
      rw [List.nil_append, List.replicate_succ, wordsFrom_close, hblanks]
      simp [wordsFrom]
  | cons c row ih =>
    simp only [List.cons_append, wordsFrom, ih]

/-! ## Fields -/

lemma toList_padLeft (width : Nat) (text : String) :
    (padLeft width text).toList = List.replicate (width - text.length) ' ' ++ text.toList := by
  have hcount : ((width : Int) - text.length).toNat = width - text.length := by omega
  rw [padLeft, blanks, hcount, String.toList_append, String.toList_ofList]

/-- Texts in fields of some width. -/
def row (width : Nat) (texts : List String) : String :=
  String.intercalate " " (texts.map (padLeft width))

lemma row_cons_cons (width : Nat) (text next : String) (more : List String) :
    (row width (text :: next :: more)).toList =
      (padLeft width text).toList ++ ' ' :: (row width (next :: more)).toList := by
  simp [row, String.intercalate_cons_cons]

/-- There is nothing in a row but its texts and blanks. -/
lemma eq_blank_or_mem_of_mem_row {width : Nat} {texts : List String} {c : Char}
    (h : c ∈ (row width texts).toList) : c = ' ' ∨ ∃ text ∈ texts, c ∈ text.toList := by
  induction texts with
  | nil => simp [row] at h
  | cons text more ih =>
    have hfield : c ∈ (padLeft width text).toList → c = ' ' ∨ c ∈ text.toList := by
      rw [toList_padLeft, List.mem_append]
      exact Or.imp_left List.eq_of_mem_replicate
    cases more with
    | nil =>
      rw [row, List.map_singleton, String.intercalate_singleton] at h
      simpa using hfield h
    | cons next more =>
      rw [row_cons_cons, List.mem_append, List.mem_cons] at h
      obtain h | h | h := h
      · exact (hfield h).imp_right fun hc => ⟨text, List.mem_cons_self, hc⟩
      · exact .inl h
      · exact (ih h).imp_right fun ⟨other, hother, hc⟩ => ⟨other, List.mem_cons_of_mem _ hother, hc⟩

/-- The texts of the fields of a row that starts at a column, each with the column where its field ends. -/
def fields (width : Nat) : (column : Nat) → List String → List (List Char × Nat)
  | _, [] => []
  | column, text :: more =>
    (text.toList, column + max width text.length) ::
      fields width (column + max width text.length + 1) more

lemma wordsFrom_field {text : String} (h : ' ' ∉ text.toList) (width column : Nat) (rest : List Char) :
    wordsFrom column [] ((padLeft width text).toList ++ rest) =
      wordsFrom (column + max width text.length) text.toList rest := by
  have hwidth : column + (width - text.length) + text.length = column + max width text.length := by
    omega
  rw [toList_padLeft, List.append_assoc, wordsFrom_blanks, wordsFrom_append h, List.nil_append,
    String.length_toList, hwidth]

lemma wordsFrom_row {texts : List String} (h : ∀ text ∈ texts, ' ' ∉ text.toList)
    (width column : Nat) :
    wordsFrom column [] (row width texts).toList =
      (fields width column texts).filter fun field => field.1 ≠ [] := by
  induction texts generalizing column with
  | nil => rfl
  | cons text more ih =>
    rw [List.forall_mem_cons] at h
    cases more with
    | nil =>
      have hfield := wordsFrom_field h.1 width column []
      rw [List.append_nil] at hfield
      rw [row, List.map_singleton, String.intercalate_singleton, hfield]
      by_cases htext : text.toList = [] <;> simp [wordsFrom, fields, htext]
    | cons next more =>
      rw [row_cons_cons, wordsFrom_field h.1, wordsFrom_close, ih h.2]
      by_cases htext : text.toList = [] <;> simp [wordsFrom, fields, htext]

/-- **The words of a row** are the texts of its fields that are not empty, where the fields end. -/
lemma words_row {texts : List String} (h : ∀ text ∈ texts, ' ' ∉ text.toList) (width : Nat) :
    words (row width texts).toList =
      (fields width 0 texts).filter fun field => field.1 ≠ [] :=
  wordsFrom_row h width 0

/-- Empty texts leave their fields blank. -/
lemma filter_fields_replicate (width column count : Nat) (more : List String) :
    ((fields width column (List.replicate count "" ++ more)).filter fun field => field.1 ≠ []) =
      (fields width (column + (width + 1) * count) more).filter fun field => field.1 ≠ [] := by
  induction count generalizing column with
  | zero => rfl
  | succ count ih =>
    have hnext : column + width + 1 + (width + 1) * count = column + (width + 1) * (count + 1) := by
      rw [Nat.mul_succ]
      omega
    simpa [List.replicate_succ, fields, hnext] using ih (column + width + 1)

/-! ### Where texts end -/

/-- By how many characters the texts of a row are too wide, up to one of them. -/
def overhang (width : Nat) (texts : List String) (index : Nat) : Nat :=
  ((texts.take (index + 1)).map fun text => text.length - width).sum

lemma overhang_eq_zero_iff (width : Nat) (texts : List String) (index : Nat) :
    overhang width texts index = 0 ↔ ∀ text ∈ texts.take (index + 1), text.length ≤ width := by
  simp only [overhang, List.sum_eq_zero_iff, List.forall_mem_map, Nat.sub_eq_zero_iff_le]

lemma getElem?_fields (width column : Nat) (texts : List String) (index : Nat) :
    (fields width column texts)[index]? =
      texts[index]?.map fun text =>
        (text.toList, column + (width + 1) * index + width + overhang width texts index) := by
  induction texts generalizing column index with
  | nil => rfl
  | cons text more ih =>
    cases index with
    | zero =>
      have hstop : column + max width text.length = column + width + (text.length - width) := by omega
      simp [fields, overhang, hstop]
    | succ index =>
      rw [fields, List.getElem?_cons_succ, List.getElem?_cons_succ, ih]
      congr 1
      funext other
      simp only [overhang, List.take_succ_cons, List.map_cons, List.sum_cons, Nat.mul_succ]
      congr 1
      omega

/-- **Where the texts of a row end.** -/
lemma getElem?_words_row {texts : List String} (hblank : ∀ text ∈ texts, ' ' ∉ text.toList)
    (hne : ∀ text ∈ texts, text.toList ≠ []) (width index : Nat) :
    (words (row width texts).toList)[index]? =
      texts[index]?.map fun text =>
        (text.toList, (width + 1) * index + width + overhang width texts index) := by
  have hfields : ∀ field ∈ fields width 0 texts, decide (field.1 ≠ []) = true := by
    intro field hfield
    obtain ⟨place, hplace⟩ := List.mem_iff_getElem?.mp hfield
    rw [getElem?_fields, Option.map_eq_some_iff] at hplace
    obtain ⟨text, htext, rfl⟩ := hplace
    exact decide_eq_true (hne text (List.mem_of_getElem? htext))
  rw [words_row hblank, List.filter_eq_self.mpr hfields, getElem?_fields, Nat.zero_add]

end TapeLang.Text
