import TapeLang.Program.OfTokens
import TapeLang.Proofs.Lexer.Order
import TapeLang.Proofs.Pattern.Literal

/-!
# Symbols as patterns

The symbols of a table can also be given as rules, one pattern for each entry.  A table looks at one place
after the other and there tries the entries; rules are searched for one after the other, each in the whole
text, and the earliest match is kept.  The two come to the same.

* `Rule.placeByPlace` — looking for rules the way a table does;
* `Rule.placeByPlace_cons` — one rule more is one match more to compare with;
* `Rule.earliest?_eq_placeByPlace` — the exchange of the two orders, for any rules;
* `SymbolTable.nextIn?` — the next symbol of a text, without positions, in which both ways of looking meet;
* **`SymbolTable.literal_rules_agree`** — the patterns of a table's symbols give its streams and programs.
-/

namespace TapeLang

open Pattern (Focus Node escaped)

/-! ## Place by place or rule by rule -/

namespace Rule

/-- A match, and the command that it stands for. -/
abbrev Found := TokenKind × Pattern.Span

/-- The match that starts earlier, and the first one if both start at the same place. -/
def sooner : Option Found → Option Found → Option Found
  | found, none => found
  | none, some other => some other
  | some found, some other => if other.2.start < found.2.start then some other else some found

@[simp]
lemma sooner_none (found : Option Found) : sooner found none = found := by
  cases found <;> rfl

@[simp]
lemma none_sooner (found : Option Found) : sooner none found = found := by
  cases found <;> rfl

lemma sooner_of_le {found : Found} {other : Option Found}
    (h : ∀ later, other = some later → found.2.start ≤ later.2.start) :
    sooner (some found) other = some found := by
  cases other with
  | none => rfl
  | some later => exact if_neg (Nat.not_lt.mpr (h later rfl))

lemma sooner_of_lt {found : Option Found} {other : Found}
    (h : ∀ later, found = some later → other.2.start < later.2.start) :
    sooner found (some other) = some other := by
  cases found with
  | none => rfl
  | some later => exact if_pos (h later rfl)

lemma sooner_assoc (first second third : Option Found) :
    sooner (sooner first second) third = sooner first (sooner second third) := by
  cases first with
  | none => simp only [none_sooner]
  | some first =>
    cases second with
    | none => simp only [sooner_none, none_sooner]
    | some second =>
      cases third with
      | none => simp only [sooner_none]
      | some third =>
        simp only [sooner]
        split_ifs <;> simp only <;> split_ifs <;> first | rfl | omega

lemma earlier_eq_sooner (text : List Char) (found : Option Found) (rule : Rule) :
    earlier text found rule = sooner found ((rule.pattern.findReal text).map (Prod.mk rule.kind)) := by
  unfold earlier
  cases rule.pattern.findReal text with
  | none => rw [Option.map_none, sooner_none]
  | some span => cases found <;> rfl

/-- The first rule that matches at a place. -/
def firstAt? (rules : List Rule) (focus : Focus) : Option Found :=
  rules.findSome? fun rule =>
    (rule.pattern.realAt? focus).map fun stop => (rule.kind, ⟨focus.pos, stop⟩)

/-- The first place where a rule matches, and the first rule that matches there. -/
def placeByPlace (rules : List Rule) (before : List Char) (pos : Nat) : List Char → Option Found
  | [] => firstAt? rules ⟨before, pos, []⟩
  | c :: rest =>
    (firstAt? rules ⟨before, pos, c :: rest⟩).or (placeByPlace rules (c :: before) (pos + 1) rest)

lemma firstAt?_cons (rule : Rule) (more : List Rule) (focus : Focus) :
    firstAt? (rule :: more) focus =
      ((rule.pattern.realAt? focus).map fun stop => (rule.kind, ⟨focus.pos, stop⟩)).or
        (firstAt? more focus) := by
  rw [firstAt?, List.findSome?_cons, ← firstAt?]
  cases rule.pattern.realAt? focus <;> rfl

lemma start_of_firstAt? {rules : List Rule} {focus : Focus} {found : Found}
    (h : firstAt? rules focus = some found) : found.2.start = focus.pos := by
  obtain ⟨rule, -, hrule⟩ := List.exists_of_findSome?_eq_some h
  obtain ⟨stop, -, rfl⟩ := Option.map_eq_some_iff.mp hrule
  rfl

lemma le_start_of_placeByPlace {rules : List Rule} {before rest : List Char} {pos : Nat} {found : Found}
    (h : placeByPlace rules before pos rest = some found) : pos ≤ found.2.start := by
  induction rest generalizing before pos with
  | nil => exact Nat.le_of_eq (start_of_firstAt? h).symm
  | cons c rest ih =>
    rw [placeByPlace, Option.or_eq_some_iff] at h
    obtain hhere | ⟨-, hlater⟩ := h
    · exact Nat.le_of_eq (start_of_firstAt? hhere).symm
    · exact Nat.le_of_succ_le (ih hlater)

/-- **One rule more.**  Its first match comes before what the others find, or it does not. -/
lemma placeByPlace_cons (rule : Rule) (more : List Rule) (before rest : List Char) (pos : Nat) :
    placeByPlace (rule :: more) before pos rest =
      sooner ((rule.pattern.findRealFrom before pos rest).map (Prod.mk rule.kind))
        (placeByPlace more before pos rest) := by
  induction rest generalizing before pos with
  | nil =>
    rw [placeByPlace, placeByPlace, firstAt?_cons, Node.findRealFrom]
    cases rule.pattern.realAt? ⟨before, pos, []⟩ with
    | none => simp
    | some stop =>
      symm
      apply sooner_of_le
      intro other hother
      exact Nat.le_of_eq (start_of_firstAt? hother).symm
  | cons c rest ih =>
    cases hreal : rule.pattern.realAt? ⟨before, pos, c :: rest⟩ with
    | some stop =>
      have hlater : ∀ other, placeByPlace more before pos (c :: rest) = some other →
          pos ≤ other.2.start := fun other => le_start_of_placeByPlace
      rw [placeByPlace, firstAt?_cons, Node.findRealFrom]
      simp only [hreal, Option.map_some, Option.some_or]
      exact (sooner_of_le hlater).symm
    | none =>
      rw [placeByPlace, placeByPlace, firstAt?_cons, Node.findRealFrom]
      simp only [hreal, Option.map_none, Option.none_or]
      cases hhere : firstAt? more ⟨before, pos, c :: rest⟩ with
      | none => simpa using ih (c :: before) (pos + 1)
      | some other =>
        -- another rule matches here, where this one does not
        rw [Option.some_or, Option.some_or]
        symm
        apply sooner_of_lt
        intro later hlater
        obtain ⟨span, hspan, rfl⟩ := Option.map_eq_some_iff.mp hlater
        rw [start_of_firstAt? hhere]
        exact (Node.findRealFrom_bounds hspan).1

/-- **The two orders of searching come to the same**, whatever the patterns match. -/
lemma earliest?_eq_placeByPlace (rules : List Rule) (text : List Char) :
    earliest? rules text = placeByPlace rules [] 0 text := by
  have hnone : ∀ before pos rest, placeByPlace [] before pos rest = none := by
    intro before pos rest
    induction rest generalizing before pos with
    | nil => rfl
    | cons c rest ih => exact ih (c :: before) (pos + 1)
  have hfold : ∀ found, rules.foldl (earlier text) found =
      sooner found (placeByPlace rules [] 0 text) := by
    induction rules with
    | nil => simp [hnone]
    | cons rule more ih =>
      intro found
      rw [List.foldl_cons, ih, earlier_eq_sooner, sooner_assoc, placeByPlace_cons]
      rfl
  rw [earliest?, hfold, none_sooner]

/-! ## Rules for symbols -/

/-- The rule of an entry. -/
def ofEntry (entry : SymbolEntry) : Rule :=
  { kind := entry.kind, pattern := Node.literally entry.symbol }

lemma firstAt?_ofEntry (entries : List SymbolEntry) (focus : Focus) :
    firstAt? (entries.map ofEntry) focus =
      (entries.find? fun entry => entry.symbol.isPrefixOf focus.rest).map fun entry =>
        (entry.kind, ⟨focus.pos, focus.pos + entry.symbol.length⟩) := by
  induction entries with
  | nil => rfl
  | cons entry more ih =>
    rw [List.map_cons, firstAt?_cons, ih, ofEntry, Node.realAt?_literally entry.nonempty]
    by_cases hfits : entry.symbol.isPrefixOf focus.rest <;> simp [hfits]

lemma readPattern_escaped (allowEmpty : Bool) (entry : SymbolEntry) :
    readPattern allowEmpty (String.ofList (escaped entry.symbol)) =
      .ok (Node.literally entry.symbol) := by
  rw [readPattern, String.toList_ofList, Node.ofText_escaped]
  simp [Node.matchesEmpty_literally entry.nonempty]

/-- The patterns of symbols are never faulty. -/
lemma readPatterns_escaped (allowEmpty : Bool) (index : Nat) (rules : List Rule)
    (entries : List SymbolEntry) :
    readPatterns allowEmpty index rules []
        (entries.map fun entry => (entry.kind, String.ofList (escaped entry.symbol))) =
      .ok (rules.reverse ++ entries.map ofEntry) := by
  induction entries generalizing index rules with
  | nil => simp [readPatterns]
  | cons entry more ih =>
    simp only [List.map_cons, readPatterns, readPattern_escaped, ih, List.reverse_cons,
      List.append_assoc, List.singleton_append, ofEntry]

end Rule

/-! ## The two lexers -/

namespace SymbolTable

variable (table : SymbolTable)

/-- The next symbol of a text, behind the number of characters in front of it. -/
def nextIn? : List Char → Option (Nat × SymbolEntry)
  | [] => none
  | text@(_ :: rest) =>
    match table.entryAt? text with
    | some entry => some (0, entry)
    | none => (nextIn? rest).map fun next => (next.1 + 1, next.2)

variable {table} in
lemma nextIn?_take {text : List Char} {next : Nat × SymbolEntry} (h : table.nextIn? text = some next) :
    (text.drop next.1).take next.2.symbol.length = next.2.symbol := by
  induction text generalizing next with
  | nil => simp [nextIn?] at h
  | cons c rest ih =>
    rw [nextIn?] at h
    split at h
    · next found hfound =>
      cases h
      exact (entryAt?_take hfound).symm
    · obtain ⟨behind, hbehind, rfl⟩ := Option.map_eq_some_iff.mp h
      exact ih hbehind

lemma scan_eq_nextIn? (text : List Char) (pos : Nat) :
    table.scan text pos = (table.nextIn? text).map fun next =>
      ({ kind := next.2.kind, text := String.ofList next.2.symbol, pos := pos + next.1 },
        ⟨pos + (next.1 + next.2.symbol.length), text.drop (next.1 + next.2.symbol.length)⟩) := by
  induction text generalizing pos with
  | nil => rfl
  | cons c rest ih =>
    rw [scan, nextIn?]
    cases table.entryAt? (c :: rest) with
    | some entry => simp
    | none =>
      simp only [ih, Option.map_map]
      congr 1
      funext next
      simp only [Function.comp_apply, Nat.add_right_comm next.1 1, List.drop_succ_cons]
      simp only [Nat.add_assoc, Nat.add_comm 1]

lemma placeByPlace_ofEntry (before rest : List Char) (pos : Nat) :
    Rule.placeByPlace (table.entries.map Rule.ofEntry) before pos rest =
      (table.nextIn? rest).map fun next =>
        (next.2.kind, ⟨pos + next.1, pos + (next.1 + next.2.symbol.length)⟩) := by
  induction rest generalizing before pos with
  | nil =>
    rw [Rule.placeByPlace, Rule.firstAt?_ofEntry, ← entryAt?_eq_find?]
    rfl
  | cons c rest ih =>
    rw [Rule.placeByPlace, Rule.firstAt?_ofEntry, ← entryAt?_eq_find?, ih, nextIn?]
    cases table.entryAt? (c :: rest) with
    | some entry => simp
    | none =>
      simp only [Option.map_none, Option.none_or, Option.map_map]
      congr 1
      funext next
      simp only [Function.comp_apply, Nat.add_right_comm next.1 1, Nat.add_assoc, Nat.add_comm 1]

/-- One step of the rules is one step of the table. -/
lemma scan_ofEntry (cursor : Cursor) :
    Rule.scan (table.entries.map Rule.ofEntry) cursor = table.scan cursor.rest cursor.pos := by
  rw [Rule.scan, Rule.earliest?_eq_placeByPlace, placeByPlace_ofEntry, scan_eq_nextIn?]
  cases hnext : table.nextIn? cursor.rest with
  | none => rfl
  | some next =>
    simp only [Option.map_some, Nat.zero_add, Nat.add_sub_cancel_left, nextIn?_take hnext]
    rfl

lemma lexer_ofEntry : Rule.lexer (table.entries.map Rule.ofEntry) = table.lexer := by
  apply Lexer.eq_of_step_eq
  funext cursor
  simp only [Rule.lexer, lexer, scan_ofEntry]

/-- **Symbols may be given as patterns.**  The patterns of a table's symbols, entry for entry, are accepted
as rules, and on every source the rules give the stream of the table, and so the same programs and the
same errors. -/
theorem literal_rules_agree (table : SymbolTable) :
    ∃ rules,
      Rule.ofPatterns (table.entries.map fun entry =>
        (entry.kind, String.ofList (escaped entry.symbol))) = .ok rules ∧
      Rule.ofAnyPatterns (table.entries.map fun entry =>
        (entry.kind, String.ofList (escaped entry.symbol))) = .ok rules ∧
      ∀ source,
        (Rule.lexer rules).stream source = table.lexer.stream source ∧
        (Rule.lexer rules).parse source = table.lexer.parse source ∧
        (Rule.lexer rules).parseAnnotated source = table.lexer.parseAnnotated source := by
  refine ⟨table.entries.map Rule.ofEntry, Rule.readPatterns_escaped false 0 [] table.entries,
    Rule.readPatterns_escaped true 0 [] table.entries, ?_⟩
  intro source
  rw [table.lexer_ofEntry]
  exact ⟨rfl, rfl, rfl⟩

end SymbolTable

end TapeLang
