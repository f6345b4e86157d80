import Mathlib.Data.List.MinMax
import Mathlib.Data.List.Sort
import TapeLang.Proofs.Lexer.Order

/-!
# The leftmost and longest symbol

A symbol table is sorted by length and split into buckets, and its lexer takes the first symbol that fits.
What comes out can be said without any of that: of the places where a symbol starts the leftmost is
taken, of the symbols that start there the longest, and of several equal ones the one given first.

* `Symbols.answers` — the scanner that says just this, on the plain list of symbols;
* `SymbolTable.find?_insertByLength` — an entry that is put in its place by length wins against those
  that are not longer, and against no other;
* `SymbolTable.longestAt?_map_written` — the first entry that fits in the sorted list is the longest;
* `SymbolTable.scan_eq_leftmost?`, `SymbolTable.answers_eq_symbols` — one step, and every run of answers;
* **`SymbolTable.stream_leftmost_longest`** — the tables of languages with one symbol or with several for
  each command.
-/

namespace TapeLang

open Ook (Stands stands_start stands_end)

/-! ## The plain scanner -/

/-- Symbols with their commands, in the order in which they were given. -/
abbrev Symbols := List (TokenKind × String)

namespace Symbols

/-- The longest symbol that starts a text; among equal ones, the first. -/
def longestAt? (symbols : Symbols) (text : List Char) : Option (TokenKind × String) :=
  (symbols.filter fun pair => pair.2.toList.isPrefixOf text).argmax fun pair => pair.2.length

/-- The least place from a position on where a symbol starts, and the longest symbol there. -/
def leftmost? (symbols : Symbols) (source : List Char) (pos : Nat) :
    Option (Nat × TokenKind × String) :=
  (List.range' pos (source.length - pos)).findSome? fun place =>
    (symbols.longestAt? (source.drop place)).map (Prod.mk place)

/-- The first answers from a position on. -/
def answers (symbols : Symbols) (source : List Char) : (count : Nat) → (pos : Nat) → List StreamAnswer
  | 0, _ => []
  | count + 1, pos =>
    match symbols.leftmost? source pos with
    | none => .ok (.finish source.length) :: symbols.answers source count source.length
    | some (place, kind, symbol) =>
      .ok (.token { kind, text := symbol, pos := place }) ::
        symbols.answers source count (place + symbol.length)

lemma longestAt?_cons_of_starts {kind : TokenKind} {symbol : String} {text : List Char}
    (h : symbol.toList.isPrefixOf text) (more : Symbols) :
    longestAt? ((kind, symbol) :: more) text =
      some ((more.longestAt? text).elim (kind, symbol) fun other =>
        if symbol.length < other.2.length then other else (kind, symbol)) := by
  rw [longestAt?, List.filter_cons, if_pos h, List.argmax_cons, ← longestAt?]
  cases more.longestAt? text with
  | none => rfl
  | some other => exact (apply_ite some _ _ _).symm

lemma longestAt?_cons_of_not_starts {kind : TokenKind} {symbol : String} {text : List Char}
    (h : ¬ symbol.toList.isPrefixOf text) (more : Symbols) :
    longestAt? ((kind, symbol) :: more) text = more.longestAt? text := by
  rw [longestAt?, List.filter_cons, if_neg h, ← longestAt?]

lemma leftmost?_of_lt (symbols : Symbols) {source : List Char} {pos : Nat} (h : pos < source.length) :
    symbols.leftmost? source pos =
      ((symbols.longestAt? (source.drop pos)).map (Prod.mk pos)).or
        (symbols.leftmost? source (pos + 1)) := by
  have hrange : List.range' pos (source.length - pos) =
      pos :: List.range' (pos + 1) (source.length - (pos + 1)) := by
    rw [← List.range'_succ]
    congr 1
    omega
  rw [leftmost?, hrange, List.findSome?_cons, ← leftmost?]
  cases symbols.longestAt? (source.drop pos) <;> rfl

lemma leftmost?_of_le (symbols : Symbols) {source : List Char} {pos : Nat} (h : source.length ≤ pos) :
    symbols.leftmost? source pos = none := by
  rw [leftmost?, Nat.sub_eq_zero_of_le h]
  rfl

end Symbols

/-! ## The sorted table -/

/-- A symbol as it was given. -/
def SymbolEntry.written (entry : SymbolEntry) : TokenKind × String :=
  (entry.kind, String.ofList entry.symbol)

namespace SymbolTable

/-- What is checked is what was given. -/
lemma entriesOf_of_nonempty {symbols : Symbols} (h : ∀ pair ∈ symbols, pair.2 ≠ "") :
    ∃ entries, entriesOf symbols = .ok entries ∧ entries.map SymbolEntry.written = symbols := by
  induction symbols with
  | nil => exact ⟨[], rfl, rfl⟩
  | cons pair more ih =>
    obtain ⟨kind, symbol⟩ := pair
    rw [List.forall_mem_cons] at h
    obtain ⟨entries, hentries, hwritten⟩ := ih h.2
    have hsymbol : symbol.toList ≠ [] := by simpa using h.1
    have hentry : entryOf kind symbol = .ok ⟨symbol.toList, kind, hsymbol⟩ := by
      rw [entryOf, dif_neg hsymbol]
    refine ⟨⟨symbol.toList, kind, hsymbol⟩ :: entries, ?_, ?_⟩
    · simp only [entriesOf, hentry, hentries]
    · simp [SymbolEntry.written, hwritten]

/-- The order of the entries in a table. -/
def NotShorter (entry other : SymbolEntry) : Prop :=
  other.symbol.length ≤ entry.symbol.length

instance : DecidableRel NotShorter := fun entry other =>
  inferInstanceAs (Decidable (other.symbol.length ≤ entry.symbol.length))

instance : Std.Total NotShorter := ⟨fun entry other => Nat.le_total other.symbol.length entry.symbol.length⟩

instance : IsTrans SymbolEntry NotShorter := ⟨fun _ _ _ h h' => Nat.le_trans h' h⟩

lemma sortByLength_eq (entries : List SymbolEntry) :
    sortByLength entries = entries.insertionSort NotShorter := by
  have hinsert : ∀ entry sorted, insertByLength entry sorted = sorted.orderedInsert NotShorter entry := by
    intro entry sorted
    induction sorted with
    | nil => rfl
    | cons other more ih => rw [insertByLength, ih]; rfl
  induction entries with
  | nil => rfl
  | cons entry more ih => rw [List.insertionSort_cons, ← ih, ← hinsert]; rfl

lemma sortByLength_sorted (entries : List SymbolEntry) :
    (sortByLength entries).Pairwise NotShorter := by
  rw [sortByLength_eq]
  exact List.pairwise_insertionSort NotShorter entries

/-- An entry put in its place is found unless a longer one is. -/
lemma find?_insertByLength {fits : SymbolEntry → Bool} {entry : SymbolEntry} {sorted : List SymbolEntry}
    (hsorted : sorted.Pairwise NotShorter) (hentry : fits entry) :
    (insertByLength entry sorted).find? fits =
      some ((sorted.find? fits).elim entry fun other =>
        if entry.symbol.length < other.symbol.length then other else entry) := by
  induction sorted with
  | nil => simp [insertByLength, hentry]
  | cons other more ih =>
    rw [List.pairwise_cons] at hsorted
    rw [insertByLength]
    split_ifs with hother
    · -- whatever fits further down is not longer than the entry
      rw [List.find?_cons_of_pos hentry]
      cases hfound : (other :: more).find? fits with
      | none => rfl
      | some found =>
        have hshort : found.symbol.length ≤ entry.symbol.length := by
          obtain rfl | hmem := List.mem_cons.mp (List.mem_of_find?_eq_some hfound)
          · exact hother
          · exact Nat.le_trans (hsorted.1 found hmem) hother
        rw [Option.elim_some, if_neg (Nat.not_lt.mpr hshort)]
    · by_cases hfits : fits other
      · rw [List.find?_cons_of_pos hfits, List.find?_cons_of_pos hfits, Option.elim_some,
          if_pos (Nat.not_le.mp hother)]
      · rw [List.find?_cons_of_neg hfits, List.find?_cons_of_neg hfits, ih hsorted.2]

lemma find?_insertByLength_of_not_fits {fits : SymbolEntry → Bool} {entry : SymbolEntry}
    (hentry : ¬ fits entry) (sorted : List SymbolEntry) :
    (insertByLength entry sorted).find? fits = sorted.find? fits := by
  induction sorted with
  | nil => simp [insertByLength, hentry]
  | cons other more ih =>
    rw [insertByLength]
    split_ifs with hother
    · rw [List.find?_cons_of_neg hentry]
    · rw [List.find?_cons, List.find?_cons, ih]

/-- **The first is the longest.**  In a sorted list the first entry that fits is the one that the plain
scanner takes from the list as it was given. -/
lemma longestAt?_map_written (entries : List SymbolEntry) (text : List Char) :
    Symbols.longestAt? (entries.map SymbolEntry.written) text =
      ((sortByLength entries).find? fun entry => entry.symbol.isPrefixOf text).map
        SymbolEntry.written := by
  induction entries with
  | nil => rfl
  | cons entry more ih =>
    have hstarts : (String.ofList entry.symbol).toList.isPrefixOf text =
        entry.symbol.isPrefixOf text := by rw [String.toList_ofList]
    rw [List.map_cons, SymbolEntry.written]
    change _ = ((insertByLength entry (sortByLength more)).find? _).map _
    by_cases hfits : entry.symbol.isPrefixOf text
    · rw [Symbols.longestAt?_cons_of_starts (hstarts.trans hfits), ih,
        find?_insertByLength (sortByLength_sorted more) hfits]
      cases (sortByLength more).find? fun entry => entry.symbol.isPrefixOf text with
      | none => rfl
      | some other =>
        simp only [Option.map_some, Option.elim_some, SymbolEntry.written, String.length_ofList]
        split_ifs <;> rfl
    · rw [Symbols.longestAt?_cons_of_not_starts (by rwa [hstarts]), ih,
        find?_insertByLength_of_not_fits hfits]

/-! ## Scanning -/

variable {table : SymbolTable} {symbols : Symbols}

/-- One step of the lexer is one step of the plain scanner. -/
lemma scan_eq_leftmost? (h : ∀ text, symbols.longestAt? text = (table.entryAt? text).map SymbolEntry.written)
    {source rest : List Char} {pos : Nat} (hstands : Stands source ⟨pos, rest⟩) :
    table.scan rest pos = (symbols.leftmost? source pos).map fun (place, kind, symbol) =>
      ({ kind, text := symbol, pos := place },
        ⟨place + symbol.length, source.drop (place + symbol.length)⟩) := by
  induction rest generalizing pos with
  | nil =>
    have hpos : pos = source.length := hstands.pos_add_length
    rw [symbols.leftmost?_of_le (Nat.le_of_eq hpos.symm)]
    rfl
  | cons c rest ih =>
    have hrest : c :: rest = source.drop pos := hstands.rest_eq
    have hlength : pos + (rest.length + 1) = source.length := hstands.pos_add_length
    have hone : 1 ≤ (c :: rest).length := by simp
    rw [scan, symbols.leftmost?_of_lt (by omega), h, ← hrest]
    cases hentry : table.entryAt? (c :: rest) with
    | none => exact ih (hstands.skip hone)
    | some entry =>
      simp only [Option.map_some, Option.some_or, SymbolEntry.written, String.length_ofList, hrest,
        List.drop_drop]

lemma answers_eq_symbols
    (h : ∀ text, symbols.longestAt? text = (table.entryAt? text).map SymbolEntry.written)
    {source : List Char} {cursor : Cursor} (hstands : Stands source cursor) (count : Nat) :
    table.lexer.answers count cursor = symbols.answers source count cursor.pos := by
  induction count generalizing cursor with
  | zero => rfl
  | succ count ih =>
    have hscan : table.lexer.step cursor = (table.scan cursor.rest cursor.pos).map _ := rfl
    rw [scan_eq_leftmost? h hstands] at hscan
    rw [Lexer.answers_succ, Symbols.answers]
    obtain ⟨hstep, hanswer⟩ | ⟨reading, next, hstep, hanswer, hnext, -⟩ :=
      table.readsInPlace.answer_cases hstands
    · rw [hanswer, ih (stands_end source)]
      cases hleft : symbols.leftmost? source cursor.pos with
      | none => rfl
      | some found => simp [hscan, hleft] at hstep
    · rw [hanswer, ih hnext]
      cases hleft : symbols.leftmost? source cursor.pos with
      | none => simp [hscan, hleft] at hstep
      | some found =>
        rw [hscan, hleft, Option.map_some, Option.map_some, Option.some.injEq, Prod.mk.injEq] at hstep
        obtain ⟨rfl, rfl⟩ := hstep
        rfl

/-- The table of symbols that are not empty, and what its stream answers. -/
lemma ofSymbols_leftmost_longest {symbols : Symbols} (h : ∀ pair ∈ symbols, pair.2 ≠ "") :
    ∃ table, ofSymbols symbols = .ok table ∧ ∀ source count,
      TokenStream.answers count (table.lexer.stream source) = symbols.answers source.toList count 0 := by
  obtain ⟨entries, hentries, rfl⟩ := entriesOf_of_nonempty h
  refine ⟨{ entries := sortByLength entries }, by simp only [ofSymbols, hentries], ?_⟩
  intro source count
  have hlongest : ∀ text, Symbols.longestAt? (entries.map SymbolEntry.written) text =
      (entryAt? { entries := sortByLength entries } text).map SymbolEntry.written := by
    intro text
    rw [entryAt?_eq_find?, longestAt?_map_written]
  rw [((readsInPlace _).keepsOrder source).answers_eq]
  exact answers_eq_symbols hlongest (stands_start source.toList) count

/-- **The stream of a symbol table is the leftmost and longest one.**  For every language whose symbols are
not empty, with several symbols for each command or with one, there is a table, and however often its
stream is asked, on whatever source, the answers are those of the plain scanner on the symbols in the
order of the commands. -/
theorem stream_leftmost_longest :
    (∀ symbols : TokenKind → List String, (∀ kind, ∀ symbol ∈ symbols kind, symbol ≠ "") →
      ∃ table, ofAlternatives symbols = .ok table ∧ ∀ source count,
        TokenStream.answers count (table.lexer.stream source) =
          Symbols.answers (TokenKind.all.flatMap fun kind => (symbols kind).map fun symbol => (kind, symbol))
            source.toList count 0) ∧
    ∀ symbol : TokenKind → String, (∀ kind, symbol kind ≠ "") →
      ∃ table, ofSingles symbol = .ok table ∧ ∀ source count,
        TokenStream.answers count (table.lexer.stream source) =
          Symbols.answers (TokenKind.all.map fun kind => (kind, symbol kind)) source.toList count 0 := by
  constructor
  · intro symbols hsymbols
    apply ofSymbols_leftmost_longest
    intro pair hpair
    simp only [List.mem_flatMap, List.mem_map] at hpair
    obtain ⟨kind, -, symbol, hsymbol, rfl⟩ := hpair
    exact hsymbols kind symbol hsymbol
  · intro symbol hsymbol
    rw [ofSingles, ofAlternatives, List.map_eq_flatMap]
    apply ofSymbols_leftmost_longest
    intro pair hpair
    simp only [List.mem_flatMap, List.map_singleton, List.mem_singleton] at hpair
    obtain ⟨kind, -, rfl⟩ := hpair
    exact hsymbol kind

/-- Symbols that begin with each other, one of them given twice: the longest is taken, and the one given
twice is what it was given as first.  With one symbol for each command, `lmnop` is the longest. -/
theorem overlapping_symbols_leftmost_longest :
    (∃ table,
      ofAlternatives (fun
        | .pointerUp => ["a", "ab"]
        | .pointerDown => ["ab", "abc"]
        | _ => []) = .ok table ∧
      TokenStream.answers 3 (table.lexer.stream "zabcab") =
        [.ok (.token ⟨.pointerDown, "abc", 1⟩), .ok (.token ⟨.pointerUp, "ab", 4⟩), .ok (.finish 6)]) ∧
    ∃ table,
      ofSingles (fun
        | .pointerUp => "l"
        | .input => "lmnop"
        | _ => "lm") = .ok table ∧
      TokenStream.answers 3 (table.lexer.stream "lmnoplm") =
        [.ok (.token ⟨.input, "lmnop", 0⟩), .ok (.token ⟨.pointerDown, "lm", 5⟩), .ok (.finish 7)] := by
  obtain ⟨hseveral, hone⟩ := stream_leftmost_longest
  obtain ⟨table, htable, hanswers⟩ := hseveral (fun
    | .pointerUp => ["a", "ab"]
    | .pointerDown => ["ab", "abc"]
    | _ => []) (by intro kind; cases kind <;> simp)
  obtain ⟨single, hsingle, hanswers'⟩ := hone (fun
    | .pointerUp => "l"
    | .input => "lmnop"
    | _ => "lm") (by intro kind; cases kind <;> simp)
  exact ⟨⟨table, htable, (hanswers _ _).trans (by decide)⟩,
    single, hsingle, (hanswers' _ _).trans (by decide)⟩

end SymbolTable

end TapeLang
