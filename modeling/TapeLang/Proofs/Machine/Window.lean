import TapeLang.Proofs.Machine.Tracing
import TapeLang.Proofs.Text.Column
import TapeLang.Proofs.Text.Integer

/-!
# Reading a memory window

A snapshot shows the cells around the pointer in three rows: their addresses, their contents, and a caret
for the pointer.  Every field is four characters wide.  Contents always fit in, but an address is an
integer of any size, and one that does not fit pushes all addresses behind it to the right, away from their
cells and from the caret.

* `Snapshot.Staggered`, `Snapshot.Aligned`: where the three rows show what belongs together.
* `Snapshot.Pictures.staggered`: a window is staggered by as much as its addresses are too wide.
* `Snapshot.Pictures.overhang_eq_zero_iff`: the windows whose addresses all fit in.
* **`Stepper.window_aligned_iff`**: the windows that are aligned.
-/

namespace TapeLang

namespace Snapshot

/-! ## Alignment -/

/-- The window is shown in three rows.  The contents of each cell end in some column and its address so many
columns to the right of it, and there is nothing in the third row but a caret, in the column where the
contents of the cell at the pointer end. -/
def Staggered (snapshot : Snapshot) (shift : Nat → Nat) : Prop :=
  ∃ addresses contents carets : List Char,
    snapshot.windowText.toList.splitOn '\n' = [addresses, contents, carets] ∧
    ∀ (index : Nat) (address : Int) (cell : UInt8), snapshot.cells[index]? = some (address, cell) →
      ∃ column,
        (Text.words addresses)[index]? = some ((toString address).toList, column + shift index) ∧
        (Text.words contents)[index]? = some ((toString cell.toNat).toList, column) ∧
        (address = snapshot.pointer → Text.words carets = [(['^'], column)])

/-- Address, contents and caret of a cell end in the same column. -/
def Aligned (snapshot : Snapshot) : Prop :=
  snapshot.Staggered fun _ => 0

variable {snapshot : Snapshot}

/-- How far an address is off can be seen in the rows. -/
lemma Staggered.shift_eq {shift shift' : Nat → Nat} (h : snapshot.Staggered shift)
    (h' : snapshot.Staggered shift') {index : Nat} (hindex : index < snapshot.cells.length) :
    shift index = shift' index := by
  obtain ⟨addresses, contents, carets, hrows, hcells⟩ := h
  obtain ⟨addresses', contents', carets', hrows', hcells'⟩ := h'
  simp only [hrows, List.cons.injEq, and_true] at hrows'
  obtain ⟨rfl, rfl, rfl⟩ := hrows'
  obtain ⟨column, haddress, hcontents, -⟩ := hcells index _ _ (List.getElem?_eq_getElem hindex)
  obtain ⟨column', haddress', hcontents', -⟩ := hcells' index _ _ (List.getElem?_eq_getElem hindex)
  simp only [haddress, hcontents, Option.some.injEq, Prod.mk.injEq, true_and] at haddress' hcontents'
  omega

lemma Staggered.congr {shift shift' : Nat → Nat} (h : snapshot.Staggered shift)
    (heq : ∀ index < snapshot.cells.length, shift index = shift' index) :
    snapshot.Staggered shift' := by
  obtain ⟨addresses, contents, carets, hrows, hcells⟩ := h
  refine ⟨addresses, contents, carets, hrows, fun index address cell hcell => ?_⟩
  obtain ⟨hindex, -⟩ := List.getElem?_eq_some_iff.mp hcell
  rw [← heq index hindex]
  exact hcells index address cell hcell

/-! ## The texts of the rows -/

/-- The addresses of the window as they are written. -/
def addressTexts (snapshot : Snapshot) : List String :=
  snapshot.cells.map fun cell => toString cell.1

def contentsTexts (snapshot : Snapshot) : List String :=
  snapshot.cells.map fun cell => toString cell.2.toNat

/-- A caret for the pointer, and nothing for any other cell. -/
def caretTexts (snapshot : Snapshot) : List String :=
  snapshot.cells.map fun cell => if cell.1 = snapshot.pointer then "^" else ""

lemma addressRow_eq (snapshot : Snapshot) :
    snapshot.addressRow = Text.row 4 snapshot.addressTexts := by
  rw [addressRow, Text.row, addressTexts, List.map_map]
  rfl

lemma contentsRow_eq (snapshot : Snapshot) :
    snapshot.contentsRow = Text.row 4 snapshot.contentsTexts := by
  rw [contentsRow, Text.row, contentsTexts, List.map_map]
  rfl

/-- The row of the caret is a row like the others, but for the blanks at its end. -/
lemma exists_caretRow_append (snapshot : Snapshot) :
    ∃ count, (Text.row 4 snapshot.caretTexts).toList =
      snapshot.caretRow.toList ++ List.replicate count ' ' := by
  have hfields : (snapshot.cells.map fun cell =>
      if cell.1 = snapshot.pointer then "   ^" else "    ") =
        snapshot.caretTexts.map (Text.padLeft 4) := by
    rw [caretTexts, List.map_map]
    apply List.map_congr_left
    intro cell _
    by_cases hcell : cell.1 = snapshot.pointer
    · simp only [Function.comp_apply, hcell, if_true]
      rfl
    · simp only [Function.comp_apply, hcell, if_false]
      rfl
  have hrow : snapshot.caretRow.toList =
      ((Text.row 4 snapshot.caretTexts).toList.reverse.dropWhile (· = ' ')).reverse := by
    rw [Text.row, ← hfields]
    exact String.toList_ofList
  rw [hrow]
  generalize (Text.row 4 snapshot.caretTexts).toList = text
  have hblanks : text.reverse.takeWhile (· = ' ') =
      List.replicate (text.reverse.takeWhile (· = ' ')).length ' ' :=
    List.eq_replicate_of_mem fun c hc => by
      simpa using List.all_eq_true.mp List.all_takeWhile c hc
  refine ⟨(text.reverse.takeWhile (· = ' ')).length, ?_⟩
  rw [← List.reverse_replicate, ← hblanks, ← List.reverse_append, List.takeWhile_append_dropWhile,
    List.reverse_reverse]

/-! ### What can be seen in them -/

lemma getElem?_words_addressRow (snapshot : Snapshot) (index : Nat) :
    (Text.words snapshot.addressRow.toList)[index]? =
      snapshot.cells[index]?.map fun cell =>
        ((toString cell.1).toList, 5 * index + 4 + Text.overhang 4 snapshot.addressTexts index) := by
  have hblank : ∀ text ∈ snapshot.addressTexts, ' ' ∉ text.toList :=
    List.forall_mem_map.mpr fun cell _ => Text.notMem_toString (by decide) (by decide) cell.1
  have hne : ∀ text ∈ snapshot.addressTexts, text.toList ≠ [] :=
    List.forall_mem_map.mpr fun cell _ => Text.toString_int_ne_nil cell.1
  rw [addressRow_eq, Text.getElem?_words_row hblank hne, addressTexts, List.getElem?_map, Option.map_map]
  rfl

lemma overhang_contentsTexts (snapshot : Snapshot) (index : Nat) :
    Text.overhang 4 snapshot.contentsTexts index = 0 := by
  have hfit : ∀ text ∈ snapshot.contentsTexts, text.length ≤ 4 := by
    refine List.forall_mem_map.mpr fun cell _ => ?_
    rw [Text.length_toString_nat_le_iff (by decide)]
    have := cell.2.toNat_lt
    omega
  rw [Text.overhang_eq_zero_iff]
  exact fun text htext => hfit text (List.mem_of_mem_take htext)

/-- Contents always fit in. -/
lemma getElem?_words_contentsRow (snapshot : Snapshot) (index : Nat) :
    (Text.words snapshot.contentsRow.toList)[index]? =
      snapshot.cells[index]?.map fun cell => ((toString cell.2.toNat).toList, 5 * index + 4) := by
  have hblank : ∀ text ∈ snapshot.contentsTexts, ' ' ∉ text.toList :=
    List.forall_mem_map.mpr fun cell _ => Text.notMem_toString (by decide) (by decide) cell.2.toNat
  have hne : ∀ text ∈ snapshot.contentsTexts, text.toList ≠ [] :=
    List.forall_mem_map.mpr fun cell _ => Text.toString_int_ne_nil cell.2.toNat
  rw [contentsRow_eq, Text.getElem?_words_row hblank hne, overhang_contentsTexts, contentsTexts,
    List.getElem?_map, Option.map_map]
  rfl

lemma words_caretRow (snapshot : Snapshot) {before after : Nat}
    (h : snapshot.caretTexts = List.replicate before "" ++ "^" :: List.replicate after "") :
    Text.words snapshot.caretRow.toList = [(['^'], 5 * before + 4)] := by
  obtain ⟨count, hcount⟩ := snapshot.exists_caretRow_append
  have hblank : ∀ text ∈ snapshot.caretTexts, ' ' ∉ text.toList := by
    refine List.forall_mem_map.mpr fun cell _ => ?_
    split_ifs <;> decide
  have hafter := Text.filter_fields_replicate 4 (0 + (4 + 1) * before + max 4 1 + 1) after []
  rw [List.append_nil] at hafter
  rw [Text.words, ← Text.wordsFrom_concat_blanks _ _ _ count, ← hcount, ← Text.words,
    Text.words_row hblank, h, Text.filter_fields_replicate, Text.fields, List.filter_cons]
  have hcaret : "^".toList = ['^'] := rfl
  have hlength : "^".length = 1 := rfl
  rw [hlength, hafter, hcaret]
  simp [Text.fields]

/-- None of the rows breaks over two lines. -/
lemma splitOn_windowText (snapshot : Snapshot) :
    snapshot.windowText.toList.splitOn '\n' =
      [snapshot.addressRow.toList, snapshot.contentsRow.toList, snapshot.caretRow.toList] := by
  have hrow : ∀ {texts : List String}, (∀ text ∈ texts, '\n' ∉ text.toList) →
      '\n' ∉ (Text.row 4 texts).toList := by
    intro texts htexts hmem
    obtain hblank | ⟨text, htext, hc⟩ := Text.eq_blank_or_mem_of_mem_row hmem
    · exact absurd hblank (by decide)
    · exact htexts text htext hc
  have haddress : '\n' ∉ snapshot.addressRow.toList := by
    rw [addressRow_eq]
    exact hrow (List.forall_mem_map.mpr fun cell _ => Text.notMem_toString (by decide) (by decide) cell.1)
  have hcontents : '\n' ∉ snapshot.contentsRow.toList := by
    rw [contentsRow_eq]
    exact hrow (List.forall_mem_map.mpr fun cell _ =>
      Text.notMem_toString (by decide) (by decide) cell.2.toNat)
  have hcaret : '\n' ∉ snapshot.caretRow.toList := by
    obtain ⟨count, hcount⟩ := snapshot.exists_caretRow_append
    have hcarets : '\n' ∉ (Text.row 4 snapshot.caretTexts).toList := by
      refine hrow (List.forall_mem_map.mpr fun cell _ => ?_)
      split_ifs <;> decide
    rw [hcount, List.mem_append, not_or] at hcarets
    exact hcarets.1
  rw [windowText, String.toList_intercalate]
  exact List.splitOn_intercalate _ (by simp [haddress, hcontents, hcaret]) (by simp)

/-! ## Windows around a pointer -/

namespace Pictures

variable {stepper : Stepper} {radius : Nat}

lemma getElem?_cells (h : snapshot.Pictures radius stepper) (index : Nat) :
    snapshot.cells[index]? =
      if index < 2 * radius + 1 then
        some (snapshot.pointer - radius + index,
          stepper.machine.memory.peek (snapshot.pointer - radius + index))
      else none := by
  have hcount : (stepper.machine.pointer + radius + 1 - (stepper.machine.pointer - radius)).toNat =
      2 * radius + 1 := by omega
  rw [cells, List.getElem?_map, List.getElem?_zipIdx, h.window_eq, Memory.window, List.getElem?_map,
    hcount, h.windowStart_eq, h.pointer_eq]
  split_ifs with hindex
  · simp [List.getElem?_range hindex]
  · simp [hindex]

lemma length_cells (h : snapshot.Pictures radius stepper) :
    snapshot.cells.length = 2 * radius + 1 := by
  simp only [cells, h.window_eq, Memory.window, List.length_map, List.length_zipIdx, List.length_range]
  omega

/-- The pointer is in the middle. -/
lemma caretTexts_eq (h : snapshot.Pictures radius stepper) :
    snapshot.caretTexts = List.replicate radius "" ++ "^" :: List.replicate radius "" := by
  apply List.ext_getElem?
  intro index
  rw [caretTexts, List.getElem?_map, h.getElem?_cells]
  obtain hbefore | rfl | hafter := Nat.lt_trichotomy index radius
  · have hindex : index < 2 * radius + 1 := by omega
    have haddress : snapshot.pointer - radius + index ≠ snapshot.pointer := by omega
    rw [List.getElem?_append_left (by simpa using hbefore), List.getElem?_replicate]
    simp [hindex, haddress, hbefore]
  · have hindex : index < 2 * index + 1 := by omega
    simp [hindex]
  · have haddress : snapshot.pointer - radius + index ≠ snapshot.pointer := by omega
    have hright : index - radius = (index - radius - 1) + 1 := by omega
    rw [List.getElem?_append_right (by simpa using hafter.le), List.length_replicate, hright,
      List.getElem?_cons_succ, List.getElem?_replicate]
    by_cases hindex : index < 2 * radius + 1
    · have hinside : index - radius - 1 < radius := by omega
      simp [hindex, haddress, hinside]
    · have houtside : ¬ index - radius - 1 < radius := by omega
      simp [hindex, houtside]

/-- **How far a window is staggered.**  Contents and caret stay in their columns, and an address is off by as
much as the addresses up to it are too wide. -/
lemma staggered (h : snapshot.Pictures radius stepper) :
    snapshot.Staggered (Text.overhang 4 snapshot.addressTexts) := by
  refine ⟨_, _, _, snapshot.splitOn_windowText, fun index address cell hcell => ?_⟩
  refine ⟨5 * index + 4, ?_, ?_, ?_⟩
  · rw [getElem?_words_addressRow, hcell, Option.map_some]
  · rw [getElem?_words_contentsRow, hcell, Option.map_some]
  · intro haddress
    rw [h.getElem?_cells] at hcell
    split_ifs at hcell
    rw [Option.some.injEq, Prod.mk.injEq] at hcell
    have hindex : index = radius := by omega
    rw [words_caretRow snapshot h.caretTexts_eq, hindex]

/-- The windows whose addresses all fit in. -/
lemma overhang_eq_zero_iff (h : snapshot.Pictures radius stepper) :
    (∀ index < snapshot.cells.length, Text.overhang 4 snapshot.addressTexts index = 0) ↔
      -999 ≤ snapshot.pointer - radius ∧ snapshot.pointer + radius ≤ 9999 := by
  have hfit (address : Int) : (toString address).length ≤ 4 ↔ -1000 < address ∧ address < 10000 :=
    Text.length_toString_int_le_iff (by decide) address
  have htexts (index : Nat) : snapshot.addressTexts[index]? =
      if index < 2 * radius + 1 then some (toString (snapshot.pointer - radius + index)) else none := by
    rw [addressTexts, List.getElem?_map, h.getElem?_cells, apply_ite (Option.map _)]
    rfl
  simp only [Text.overhang_eq_zero_iff, h.length_cells]
  constructor
  · intro hall
    -- the last cell speaks for all of them
    have hlast := hall (2 * radius) (by omega)
    have hshown : ∀ index < 2 * radius + 1,
        toString (snapshot.pointer - radius + index) ∈ snapshot.addressTexts.take (2 * radius + 1) := by
      intro index hindex
      apply List.mem_of_getElem? (i := index)
      rw [List.getElem?_take_of_lt hindex, htexts, if_pos hindex]
    have hleft := (hfit _).mp (hlast _ (hshown 0 (by omega)))
    have hright := (hfit _).mp (hlast _ (hshown (2 * radius) (by omega)))
    omega
  · intro hbounds index _ text htext
    obtain ⟨place, hplace⟩ := List.mem_iff_getElem?.mp (List.mem_of_mem_take htext)
    rw [htexts] at hplace
    split_ifs at hplace
    rw [Option.some.injEq] at hplace
    rw [← hplace, hfit]
    omega

lemma aligned_iff (h : snapshot.Pictures radius stepper) :
    snapshot.Aligned ↔ -999 ≤ snapshot.pointer - radius ∧ snapshot.pointer + radius ≤ 9999 := by
  rw [← h.overhang_eq_zero_iff]
  constructor
  · intro haligned index hindex
    exact h.staggered.shift_eq haligned hindex
  · exact h.staggered.congr

end Pictures

end Snapshot

namespace Stepper

/-- **The windows that are aligned.**  In every state that a session can lead to before the program has
ended, a snapshot can be taken.  Its window has three rows.  Contents and caret stand in columns of their
own; the address of a cell ends where its contents do, or behind that by as much as the addresses up to it
are too wide for four characters.  So the rows are aligned if and only if no address of the window is. -/
theorem window_aligned_iff (program : Program) (machine : Machine) (calls : List StepperCall)
    (radius : Nat) (h : ((init program machine).session calls).2.path ≠ none) :
    ∃ snapshot : Snapshot,
      ((init program machine).session calls).2.snapshot radius = .ok (some snapshot) ∧
      snapshot.Pictures radius ((init program machine).session calls).2 ∧
      snapshot.Staggered (Text.overhang 4 snapshot.addressTexts) ∧
      (snapshot.Aligned ↔
        -999 ≤ snapshot.pointer - radius ∧ snapshot.pointer + radius ≤ 9999) := by
  have htrack := (onTrack_init program machine).session calls
  obtain ⟨snapshot, hsnapshot, hpictures⟩ := htrack.exists_snapshot h radius
  exact ⟨snapshot, hsnapshot, hpictures, hpictures.staggered, hpictures.aligned_iff⟩

/-- Three cells around address one. -/
theorem narrow_window_aligned :
    ((init [.act (.add 3), .act (.move 1), .act .output] (.init (.fixed 4) ⟨[], 0, none⟩ {})).session
      [.step, .step]).2.path ≠ none ∧
    ∃ snapshot : Snapshot,
      ((init [.act (.add 3), .act (.move 1), .act .output] (.init (.fixed 4) ⟨[], 0, none⟩ {})).session
        [.step, .step]).2.snapshot (1 : Nat) = .ok (some snapshot) ∧
      snapshot.windowText = "   0    1    2\n   3    0    0\n        ^" ∧ snapshot.Aligned := by
  have hrunning : ((init [.act (.add 3), .act (.move 1), .act .output]
      (.init (.fixed 4) ⟨[], 0, none⟩ {})).session [.step, .step]).2.path ≠ none := by decide
  obtain ⟨snapshot, hsnapshot, hpictures, -, haligned⟩ := window_aligned_iff _ _ _ 1 hrunning
  have hpointer : snapshot.pointer = 1 := hpictures.pointer_eq
  refine ⟨hrunning, snapshot, hsnapshot, ?_, haligned.mpr (by omega)⟩
  obtain rfl : _ = snapshot := Option.some.inj (Except.ok.inj hsnapshot)
  decide

/-- Address 10000 does not fit in: it ends one column behind its contents and the caret. -/
theorem wide_window_not_aligned :
    ∃ snapshot : Snapshot,
      ((init [.act (.move 10000), .act (.add 1)] (.init .rightUnbounded ⟨[], 0, none⟩ {})).session
        [.step]).2.snapshot 0 = .ok (some snapshot) ∧
      snapshot.windowText = "10000\n   0\n   ^" ∧ ¬ snapshot.Aligned := by
  have hrunning : ((init [.act (.move 10000), .act (.add 1)]
      (.init .rightUnbounded ⟨[], 0, none⟩ {})).session [.step]).2.path ≠ none := by decide
  have htrack := (onTrack_init [.act (.move 10000), .act (.add 1)]
    (.init .rightUnbounded ⟨[], 0, none⟩ {})).session [.step]
  obtain ⟨snapshot, hsnapshot, hpictures⟩ := htrack.exists_snapshot hrunning (0 : Nat)
  have hpointer : snapshot.pointer = 10000 := hpictures.pointer_eq
  refine ⟨snapshot, hsnapshot, ?_, ?_⟩
  · obtain rfl : _ = snapshot := Option.some.inj (Except.ok.inj hsnapshot)
    decide
  · rw [hpictures.aligned_iff]
    omega

end Stepper

end TapeLang
