import TapeLang.Lexer
import TapeLang.Pattern.Read
import TapeLang.Pattern.Search

/-!
# Lexers from patterns

A language can describe each command by a pattern.  The next token is the match that starts earliest
in the text that is still unread; where several rules match at the same place, the rule that was
given first wins.  Empty matches are never tokens, and text that no rule matches is skipped.

Patterns see the unread text as a text of its own, so that `^` matches at the cursor.

* `Rule.earliest?` looks for the first match of each rule and keeps the earliest of them.
* `Rule.lexer` is the lexer of a list of rules.
* `Rule.ofPatterns` reads the patterns of a list of rules.  It reports every pattern that is faulty,
  and also those that match the empty text.
-/

namespace TapeLang

/-- A pattern and the command that its matches stand for. -/
structure Rule where
  kind : TokenKind
  pattern : Pattern.Node
deriving DecidableEq, Repr

namespace Rule

/-! ## Scanning -/

/-- The earlier one of the match found so far and the first match of a rule that is not empty.  Where
both start at the same place, the one found so far is kept. -/
def earlier (text : List Char) (found : Option (TokenKind × Pattern.Span)) (rule : Rule) :
    Option (TokenKind × Pattern.Span) :=
  match rule.pattern.findReal text, found with
  | none, _ => found
  | some span, none => some (rule.kind, span)
  | some span, some (_, best) => if span.start < best.start then some (rule.kind, span) else found

/-- The earliest match of some rule in a text, and among the earliest that of the first rule. -/
def earliest? (rules : List Rule) (text : List Char) : Option (TokenKind × Pattern.Span) :=
  rules.foldl (earlier text) none

/-- The match that is kept is the one found so far or the first one of the rule. -/
theorem earlier_cases {text : List Char} {found : Option (TokenKind × Pattern.Span)} {rule : Rule}
    {kind : TokenKind} {span : Pattern.Span} (h : earlier text found rule = some (kind, span)) :
    found = some (kind, span) ∨ rule.pattern.findReal text = some span := by
  unfold earlier at h
  split at h
  · exact .inl h
  · next hreal =>
    cases h
    exact .inr hreal
  · next hreal =>
    split at h
    · cases h
      exact .inr hreal
    · exact .inl h

/-- The earliest match lies inside the text and is not empty, also when the search goes on from a
match that does. -/
theorem foldl_earlier_bounds {text : List Char} {rules : List Rule}
    {found : Option (TokenKind × Pattern.Span)} {kind : TokenKind} {span : Pattern.Span}
    (hfound : ∀ kind span, found = some (kind, span) →
      span.start < span.stop ∧ span.stop ≤ text.length)
    (h : rules.foldl (earlier text) found = some (kind, span)) :
    span.start < span.stop ∧ span.stop ≤ text.length := by
  induction rules generalizing found with
  | nil => exact hfound kind span h
  | cons rule more ih =>
    refine ih (fun kind span hkept => ?_) h
    obtain hold | hnew := earlier_cases hkept
    · exact hfound kind span hold
    · exact Pattern.Node.findReal_bounds hnew

/-- The earliest match lies inside the text and is not empty. -/
theorem earliest?_bounds {text : List Char} {rules : List Rule} {kind : TokenKind}
    {span : Pattern.Span} (h : earliest? rules text = some (kind, span)) :
    span.start < span.stop ∧ span.stop ≤ text.length :=
  foldl_earlier_bounds (by simp) h

/-- Takes the earliest match behind a cursor. -/
def scan (rules : List Rule) (cursor : Cursor) : Option (Token × Cursor) :=
  match earliest? rules cursor.rest with
  | none => none
  | some (kind, span) =>
    let text := (cursor.rest.drop span.start).take (span.stop - span.start)
    some ({ kind, text := String.ofList text, pos := cursor.pos + span.start },
      cursor.skip span.stop)

/-- A token consumes some of the text. -/
theorem scan_consumes {rules : List Rule} {cursor next : Cursor} {token : Token}
    (h : scan rules cursor = some (token, next)) : next.rest.length < cursor.rest.length := by
  unfold scan at h
  split at h
  · exact absurd h nofun
  · next kind span hspan =>
    have := earliest?_bounds hspan
    simp only [Option.some.injEq, Prod.mk.injEq] at h
    simp only [← h.2, Cursor.skip, List.length_drop]
    omega

/-- The lexer of a list of rules.  It never fails: what no rule matches is skipped. -/
def lexer (rules : List Rule) : Lexer where
  step cursor := (scan rules cursor).map fun (token, next) => (.ok token, next)
  consumes h := by
    obtain ⟨⟨token, next⟩, hscan, heq⟩ := Option.map_eq_some_iff.1 h
    simp only [Prod.mk.injEq] at heq
    exact heq.2 ▸ scan_consumes hscan

/-! ## Reading rules -/

/-- A faulty pattern: its place in the list of rules, its text, and what is wrong with it. -/
structure Faulty where
  index : Nat
  text : String
  error : Pattern.PatternError
deriving DecidableEq, Repr

/-- The wording of what is wrong with a pattern. -/
def Faulty.message (faulty : Faulty) : String :=
  faulty.error.message faulty.text.toList

/-- Why rules cannot be made of patterns. -/
inductive RulesError where
  /-- These patterns are faulty. -/
  | faulty (patterns : List Faulty)
  /-- A number of repetitions is beyond all bounds. -/
  | tooManyRepetitions
  /-- The settings of a pattern exclude each other. -/
  | incompatibleSettings
deriving DecidableEq, Repr

/-- The wording of each cause. -/
def RulesError.message : RulesError → String
  | .faulty patterns =>
    "Regex errors: " ++ String.intercalate ", "
      (patterns.map fun faulty => "[" ++ toString faulty.index ++ "] " ++ faulty.message)
  | .tooManyRepetitions => "the repetition number is too large"
  | .incompatibleSettings => "ASCII and UNICODE flags are incompatible"

/-- Reads one pattern.  Unless empty matches are allowed for, a pattern that matches the empty text
counts as faulty, since it would never move a cursor on. -/
def readPattern (allowEmpty : Bool) (text : String) : Except Pattern.ReadError Pattern.Node :=
  match Pattern.Node.ofText text.toList with
  | .error e => .error e
  | .ok node =>
    if !allowEmpty && node.matchesEmpty then .error (.faulty ⟨.matchesEmpty, none⟩) else .ok node

/-- Reads patterns numbered from `index` on, given the rules and the faulty patterns before them,
latest first. -/
def readPatterns (allowEmpty : Bool) (index : Nat) (rules : List Rule) (faults : List Faulty) :
    List (TokenKind × String) → Except RulesError (List Rule)
  | [] => if faults.isEmpty then .ok rules.reverse else .error (.faulty faults.reverse)
  | (kind, text) :: more =>
    match readPattern allowEmpty text with
    | .ok node => readPatterns allowEmpty (index + 1) (⟨kind, node⟩ :: rules) faults more
    | .error (.faulty e) =>
      readPatterns allowEmpty (index + 1) rules (⟨index, text, e⟩ :: faults) more
    | .error .tooManyRepetitions => .error .tooManyRepetitions
    | .error .incompatibleSettings => .error .incompatibleSettings

/-- Reads the patterns of a list of rules, none of which may match the empty text. -/
def ofPatterns (patterns : List (TokenKind × String)) : Except RulesError (List Rule) :=
  readPatterns false 0 [] [] patterns

/-- Reads the patterns of a list of rules. -/
def ofAnyPatterns (patterns : List (TokenKind × String)) : Except RulesError (List Rule) :=
  readPatterns true 0 [] [] patterns

end Rule

end TapeLang
