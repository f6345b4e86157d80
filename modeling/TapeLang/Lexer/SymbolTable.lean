import TapeLang.Lexer

/-!
# Lexers from tables of symbols

The simplest languages write each command as a fixed symbol.  The lexer of such a language skips
to the first place where a symbol starts and takes the longest one that starts there; everything
between symbols is a comment.

* `SymbolEntry` is one symbol with its command; a symbol is never empty.
* `SymbolTable.ofSymbols` builds the table: longest symbols first, and symbols of equal length in
  the order in which they were given.  The first entry that fits is then the longest.
* `SymbolBuckets` holds the entries of a table by the first character of their symbols, so that only
  those are tried that can fit at all.
* `SymbolTable.lexer` is the lexer of a table.
-/

namespace TapeLang

/-- A symbol and the command that it stands for. -/
structure SymbolEntry where
  symbol : List Char
  kind : TokenKind
  /-- An empty symbol would fit everywhere without consuming anything. -/
  nonempty : symbol ≠ []
deriving DecidableEq, Repr

/-- The refusal of an empty symbol. -/
structure EmptySymbol where
  kind : TokenKind
deriving DecidableEq, Repr

/-- The wording of the refusal. -/
def EmptySymbol.message (e : EmptySymbol) : String :=
  "Empty symbol for " ++ e.kind.tag

/-- The first character of a symbol. -/
def SymbolEntry.first (entry : SymbolEntry) : Char :=
  entry.symbol.head entry.nonempty

/-- Entries in buckets, one for each character that a symbol starts with. -/
abbrev SymbolBuckets := List (Char × List SymbolEntry)

namespace SymbolBuckets

/-- Puts an entry behind the others in its bucket. -/
def push (entry : SymbolEntry) : SymbolBuckets → SymbolBuckets
  | [] => [(entry.first, [entry])]
  | (c, bucket) :: more =>
    if c = entry.first then (c, bucket ++ [entry]) :: more else (c, bucket) :: push entry more

/-- The buckets of a list of entries.  Each keeps the order of the list. -/
def ofEntries (entries : List SymbolEntry) : SymbolBuckets :=
  entries.foldl (fun buckets entry => buckets.push entry) []

/-- The bucket of a character. -/
def get (buckets : SymbolBuckets) (c : Char) : List SymbolEntry :=
  (buckets.lookup c).getD []

theorem get_cons (d : Char) (bucket : List SymbolEntry) (more : SymbolBuckets) (c : Char) :
    get ((d, bucket) :: more) c = if c = d then bucket else get more c := by
  by_cases h : c = d
  · simp [get, h]
  · simp [get, List.lookup_cons, beq_eq_false_iff_ne.2 h, h]

theorem get_push (entry : SymbolEntry) (buckets : SymbolBuckets) (c : Char) :
    (buckets.push entry).get c = buckets.get c ++ if c = entry.first then [entry] else [] := by
  induction buckets with
  | nil => rw [push, get_cons]; rfl
  | cons pair more ih =>
    obtain ⟨d, bucket⟩ := pair
    rw [push]
    split
    · next hd =>
      simp only [get_cons, ← hd]
      split <;> simp
    · next hd =>
      simp only [get_cons, ih]
      split
      · next hc => simp [hc, hd]
      · rfl

theorem get_foldl_push (entries : List SymbolEntry) (buckets : SymbolBuckets) (c : Char) :
    (entries.foldl (fun buckets entry => buckets.push entry) buckets).get c =
      buckets.get c ++ entries.filter (c == ·.first) := by
  induction entries generalizing buckets with
  | nil => simp
  | cons entry more ih =>
    rw [List.foldl_cons, ih, get_push, List.filter_cons]
    by_cases h : c = entry.first <;> simp [h]

/-- A bucket holds the entries that start with its character, in their order. -/
theorem get_ofEntries (entries : List SymbolEntry) (c : Char) :
    (ofEntries entries).get c = entries.filter (c == ·.first) :=
  get_foldl_push entries [] c

end SymbolBuckets

/-- The symbols of a language, longest first, and once more in their buckets. -/
structure SymbolTable where
  entries : List SymbolEntry
  buckets : SymbolBuckets := .ofEntries entries
  buckets_eq : buckets = .ofEntries entries := by rfl
deriving DecidableEq, Repr

namespace SymbolTable

/-- Checks one symbol. -/
def entryOf (kind : TokenKind) (symbol : String) : Except EmptySymbol SymbolEntry :=
  if h : symbol.toList = [] then .error ⟨kind⟩ else .ok ⟨symbol.toList, kind, h⟩

/-- Checks a list of symbols; the first empty one is refused. -/
def entriesOf : List (TokenKind × String) → Except EmptySymbol (List SymbolEntry)
  | [] => .ok []
  | (kind, symbol) :: more =>
    match entryOf kind symbol with
    | .error e => .error e
    | .ok entry =>
      match entriesOf more with
      | .error e => .error e
      | .ok entries => .ok (entry :: entries)

/-- Puts an entry in front of all entries that are not longer. -/
def insertByLength (entry : SymbolEntry) : List SymbolEntry → List SymbolEntry
  | [] => [entry]
  | other :: more =>
    if other.symbol.length ≤ entry.symbol.length then entry :: other :: more
    else other :: insertByLength entry more

/-- Sorts entries by falling length; entries of equal length keep their order. -/
def sortByLength (entries : List SymbolEntry) : List SymbolEntry :=
  entries.foldr insertByLength []

/-- The table of a list of symbols. -/
def ofSymbols (symbols : List (TokenKind × String)) : Except EmptySymbol SymbolTable :=
  match entriesOf symbols with
  | .error e => .error e
  | .ok entries => .ok { entries := sortByLength entries }

/-- The table of a language with any number of symbols for each command. -/
def ofAlternatives (symbols : TokenKind → List String) : Except EmptySymbol SymbolTable :=
  ofSymbols (TokenKind.all.flatMap fun kind => (symbols kind).map (Prod.mk kind))

/-- The table of a language with one symbol for each command. -/
def ofSingles (symbol : TokenKind → String) : Except EmptySymbol SymbolTable :=
  ofAlternatives fun kind => [symbol kind]

/-! ## Scanning -/

/-- The first entry whose symbol starts the text.  It is in the bucket of the first character. -/
def entryAt? (table : SymbolTable) : (text : List Char) → Option SymbolEntry
  | [] => none
  | text@(c :: _) => (table.buckets.get c).find? fun entry => entry.symbol.isPrefixOf text

/-- **Nothing is lost by trying one bucket only.**  The entries in the others do not fit. -/
theorem entryAt?_eq_find? (table : SymbolTable) (text : List Char) :
    table.entryAt? text = table.entries.find? fun entry => entry.symbol.isPrefixOf text := by
  cases text with
  | nil =>
    refine (List.find?_eq_none.2 fun entry _ => ?_).symm
    simpa using entry.nonempty
  | cons c rest =>
    rw [entryAt?, table.buckets_eq, SymbolBuckets.get_ofEntries, List.find?_filter]
    congr 1
    funext ⟨symbol, kind, nonempty⟩
    obtain ⟨d, more, rfl⟩ := List.exists_cons_of_ne_nil nonempty
    rw [Bool.eq_iff_iff]
    simp only [SymbolEntry.first, List.head_cons, List.isPrefixOf, Bool.and_eq_true, beq_iff_eq,
      decide_eq_true_eq]
    exact ⟨And.right, fun h => ⟨h.1.symm, h⟩⟩

/-- Skips to the first symbol in a text that starts at `pos`, and takes it. -/
def scan (table : SymbolTable) : (text : List Char) → (pos : Nat) → Option (Token × Cursor)
  | [], _ => none
  | text@(_ :: rest), pos =>
    match table.entryAt? text with
    | some entry =>
      some ({ kind := entry.kind, text := String.ofList entry.symbol, pos },
        { pos := pos + entry.symbol.length, rest := text.drop entry.symbol.length })
    | none => table.scan rest (pos + 1)

/-- What is left behind a symbol is shorter than the text the symbol was found in. -/
theorem scan_consumes (table : SymbolTable) {text : List Char} {pos : Nat} {token : Token}
    {next : Cursor} (h : table.scan text pos = some (token, next)) :
    next.rest.length < text.length := by
  induction text generalizing pos with
  | nil => simp [scan] at h
  | cons c rest ih =>
    rw [scan] at h
    split at h
    · next entry _ =>
      have hpos : 0 < entry.symbol.length := List.length_pos_iff.2 entry.nonempty
      simp only [Option.some.injEq, Prod.mk.injEq] at h
      simp only [← h.2, List.length_drop, List.length_cons]
      omega
    · have := ih h
      simp only [List.length_cons]
      omega

/-- The lexer of a symbol table.  It never fails: what is no symbol is skipped. -/
def lexer (table : SymbolTable) : Lexer where
  step cursor := (table.scan cursor.rest cursor.pos).map fun (token, next) => (.ok token, next)
  consumes h := by
    obtain ⟨⟨token, next⟩, hscan, heq⟩ := Option.map_eq_some_iff.1 h
    simp only [Prod.mk.injEq] at heq
    exact heq.2 ▸ table.scan_consumes hscan

end SymbolTable

end TapeLang
