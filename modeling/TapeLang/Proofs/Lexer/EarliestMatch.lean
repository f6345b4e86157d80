import TapeLang.Proofs.Lexer.Literals
import TapeLang.Proofs.Pattern.Search

/-!
# The earliest match of some rules

Each rule has its list of matches in the text that is still unread, empty ones among them.  The next token
is the first match that is not empty of some rule: of the rule for which it starts earliest, and among
several of these, of the one that was given first.

* `Rule.firstReal?` — the first match of a rule that is not empty;
* `Rule.Leads` — the rule that has to be taken, said without any order of searching;
* `Rule.exists_leads` — it is the one that is taken;
* `Rule.TakesEarliest` — the answer at a position, given by the rule that leads;
* `Rule.InsertsIdle` — rules among which others have been put that never match anything but the empty text;
* **`Rule.stream_takes_earliest`** — the stream of a list of rules.
-/

namespace TapeLang

open Pattern (Span)

namespace Rule

/-! ## The rule that leads -/

/-- The first match of a rule that is not empty, among all its matches in a text. -/
def firstReal? (rule : Rule) (text : List Char) : Option Span :=
  (rule.pattern.spans text).find? Span.isReal

/-- The rule has a match that is not empty, and the first one of these starts before those of the rules
that were given earlier, and not behind those of the rules that were given later. -/
structure Leads (rules : List Rule) (text : List Char) (rule : Rule) (span : Span) : Prop where
  first : rule.firstReal? text = some span
  place : ∃ before after, rules = before ++ rule :: after ∧
    (∀ other ∈ before, ∀ found, other.firstReal? text = some found → span.start < found.start) ∧
    ∀ other ∈ after, ∀ found, other.firstReal? text = some found → span.start ≤ found.start

variable {rules : List Rule} {text : List Char} {rule : Rule} {span : Span}

/-- No match comes before that of the rule that leads. -/
lemma Leads.start_le (h : Leads rules text rule span) {other : Rule} (hother : other ∈ rules)
    {found : Span} (hfound : other.firstReal? text = some found) : span.start ≤ found.start := by
  obtain ⟨before, after, rfl, hbefore, hafter⟩ := h.place
  rw [List.mem_append, List.mem_cons] at hother
  obtain hother | rfl | hother := hother
  · exact Nat.le_of_lt (hbefore other hother found hfound)
  · obtain rfl : span = found := Option.some.inj (h.first.symm.trans hfound)
    exact Nat.le_refl _
  · exact hafter other hother found hfound

lemma leads_head (hfirst : rule.firstReal? text = some span)
    (hmore : ∀ other ∈ rules, ∀ found, other.firstReal? text = some found → span.start ≤ found.start) :
    Leads (rule :: rules) text rule span :=
  ⟨hfirst, [], rules, rfl, by simp, hmore⟩

lemma Leads.cons (h : Leads rules text rule span) {other : Rule}
    (hother : ∀ found, other.firstReal? text = some found → span.start < found.start) :
    Leads (other :: rules) text rule span := by
  obtain ⟨before, after, rfl, hbefore, hafter⟩ := h.place
  refine ⟨h.first, other :: before, after, rfl, ?_, hafter⟩
  intro earlier hearlier
  obtain rfl | hearlier := List.mem_cons.mp hearlier
  · exact hother
  · exact hbefore earlier hearlier

lemma earliest?_cons (rule : Rule) (rules : List Rule) (text : List Char) :
    earliest? (rule :: rules) text =
      sooner ((rule.firstReal? text).map (Prod.mk rule.kind)) (earliest? rules text) := by
  rw [earliest?_eq_placeByPlace, placeByPlace_cons, ← earliest?_eq_placeByPlace, firstReal?,
    Pattern.Node.find?_spans]
  rfl

/-- **The rule that is taken leads**, and none is taken only where none has anything to take. -/
lemma exists_leads (rules : List Rule) (text : List Char) :
    (earliest? rules text = none ∧ ∀ rule ∈ rules, rule.firstReal? text = none) ∨
    ∃ rule span, earliest? rules text = some (rule.kind, span) ∧ Leads rules text rule span := by
  induction rules with
  | nil => exact .inl ⟨rfl, by simp⟩
  | cons rule rules ih =>
    rw [earliest?_cons]
    cases hfirst : rule.firstReal? text with
    | none =>
      rw [Option.map_none, none_sooner]
      obtain ⟨hnone, hrules⟩ | ⟨other, span, hother, hleads⟩ := ih
      · exact .inl ⟨hnone, List.forall_mem_cons.mpr ⟨hfirst, hrules⟩⟩
      · exact .inr ⟨other, span, hother, hleads.cons (by simp [hfirst])⟩
    | some span =>
      rw [Option.map_some]
      refine .inr ?_
      obtain ⟨hnone, hrules⟩ | ⟨other, found, hother, hleads⟩ := ih
      · rw [hnone, sooner_none]
        exact ⟨rule, span, rfl, leads_head hfirst fun later hlater => by simp [hrules later hlater]⟩
      · rw [hother]
        by_cases hlt : found.start < span.start
        · refine ⟨other, found, if_pos hlt, hleads.cons fun first hsome => ?_⟩
          rw [hfirst, Option.some.injEq] at hsome
          exact hsome ▸ hlt
        · refine ⟨rule, span, if_neg hlt, leads_head hfirst fun later hlater first hsome => ?_⟩
          have := hleads.start_le hlater hsome
          omega

/-! ## Rules that match nothing -/

/-- The rule never matches anything but the empty text. -/
def Idle (rule : Rule) : Prop :=
  ∀ text, ∀ span ∈ rule.pattern.spans text, span.stop ≤ span.start

/-- The second list is the first one with idle rules put in anywhere. -/
inductive InsertsIdle : List Rule → List Rule → Prop
  | nil : InsertsIdle [] []
  | keep (rule : Rule) {rules more : List Rule} (h : InsertsIdle rules more) :
      InsertsIdle (rule :: rules) (rule :: more)
  | insert {rule : Rule} (hidle : rule.Idle) {rules more : List Rule} (h : InsertsIdle rules more) :
      InsertsIdle rules (rule :: more)

lemma Idle.firstReal? (h : rule.Idle) (text : List Char) : rule.firstReal? text = none := by
  rw [Rule.firstReal?, List.find?_eq_none]
  intro span hspan
  simpa [Span.isReal] using h text span hspan

lemma InsertsIdle.earliest? {more : List Rule} (h : InsertsIdle rules more) (text : List Char) :
    earliest? more text = earliest? rules text := by
  induction h with
  | nil => rfl
  | keep rule h ih => rw [earliest?_cons, earliest?_cons, ih]
  | insert hidle h ih => rw [earliest?_cons, hidle.firstReal? text, Option.map_none, none_sooner, ih]

lemma InsertsIdle.lexer {more : List Rule} (h : InsertsIdle rules more) :
    Rule.lexer more = Rule.lexer rules := by
  apply Lexer.eq_of_step_eq
  funext cursor
  simp only [Rule.lexer, scan, h.earliest?]

/-! ## The stream -/

/-- What has to be answered at a position of a source, and the cursor to go on from: the end of the source
where no rule has a match that is not empty, and otherwise the match of the rule that leads. -/
inductive TakesEarliest (rules : List Rule) (source : List Char) (pos : Nat) :
    StreamAnswer × Cursor → Prop
  | finish (hnone : ∀ rule ∈ rules, rule.firstReal? (source.drop pos) = none) :
      TakesEarliest rules source pos (.ok (.finish source.length), ⟨source.length, []⟩)
  | token {rule : Rule} {span : Span} (hleads : Leads rules (source.drop pos) rule span) :
      TakesEarliest rules source pos
        (.ok (.token
            { kind := rule.kind
              text := String.ofList ((source.drop (pos + span.start)).take (span.stop - span.start))
              pos := pos + span.start }),
          ⟨pos + span.stop, source.drop (pos + span.stop)⟩)

lemma answer_takesEarliest (rules : List Rule) (source : List Char) {pos : Nat}
    (hpos : pos ≤ source.length) :
    TakesEarliest rules source pos ((Rule.lexer rules).answer ⟨pos, source.drop pos⟩) := by
  obtain ⟨hnone, hrules⟩ | ⟨rule, span, hfound, hleads⟩ := exists_leads rules (source.drop pos)
  · have hstep : (Rule.lexer rules).step ⟨pos, source.drop pos⟩ = none := by
      simp only [Rule.lexer, scan, hnone, Option.map_none]
    have hlength : pos + (source.length - pos) = source.length := by omega
    simp only [Lexer.answer, hstep, Cursor.skip, List.length_drop, List.drop_drop, hlength,
      List.drop_length]
    exact .finish hrules
  · simp only [Lexer.answer, Rule.lexer, scan, hfound, Option.map_some, Cursor.skip, List.drop_drop]
    exact .token hleads

/-- **The next token is the earliest real match.**  A stream answers as its lexer does from one cursor to
the next, and from every position of a source it takes the earliest match that is not empty; the matches of
a rule are listed from left to right and inside the text.  Rules that never match anything but the empty
text make no difference, wherever they are put. -/
theorem stream_takes_earliest (rules : List Rule) (source : String) :
    (∀ count, TokenStream.answers count ((Rule.lexer rules).stream source) =
      (Rule.lexer rules).answers count ⟨0, source.toList⟩) ∧
    (∀ pos ≤ source.length, TakesEarliest rules source.toList pos
      ((Rule.lexer rules).answer ⟨pos, source.toList.drop pos⟩)) ∧
    (∀ (rule : Rule) (text : List Char),
      ((rule.pattern.spans text).Pairwise fun earlier later => earlier.start ≤ later.start) ∧
      ∀ span ∈ rule.pattern.spans text, span.start ≤ span.stop ∧ span.stop ≤ text.length) ∧
    ∀ more, InsertsIdle rules more →
      (Rule.lexer more).stream source = (Rule.lexer rules).stream source := by
  refine ⟨((readsInPlace rules).keepsOrder source).answers_eq, ?_,
    fun rule text => rule.pattern.spans_inOrder text, fun more hmore => by rw [hmore.lexer]⟩
  intro pos hpos
  apply answer_takesEarliest
  rwa [String.length_toList]

/-- A look ahead matches nothing but the empty text. -/
lemma idle_ahead (kind : TokenKind) (positive : Bool) (body : Pattern.Node) :
    Idle ⟨kind, .ahead positive body⟩ := by
  have hreal : ∀ focus, (Pattern.Node.ahead positive body).realAt? focus = none := by
    intro focus
    simp only [Pattern.Node.realAt?, Pattern.Node.matchFrom, Pattern.Node.run]
    split <;> simp
  have hfind : ∀ before pos rest,
      (Pattern.Node.ahead positive body).findRealFrom before pos rest = none := by
    intro before pos rest
    induction rest generalizing before pos with
    | nil => rw [Pattern.Node.findRealFrom, hreal, Option.map_none]
    | cons c rest ih => rw [Pattern.Node.findRealFrom, hreal, ih]
  intro text span hspan
  have hspans := Pattern.Node.find?_spans (.ahead positive body) text
  rw [Pattern.Node.findReal, hfind, List.find?_eq_none] at hspans
  simpa [Span.isReal] using hspans span hspan

/-- The pattern `(?=a)`. -/
def lookRule (kind : TokenKind) : Rule := ⟨kind, .ahead true (.literal 'a')⟩

/-- The pattern `(?=a)|\+`. -/
def lookOrPlusRule : Rule := ⟨.dataUp, .alt (.ahead true (.literal 'a')) (.literal '+')⟩

/-- The pattern `\.`. -/
def dotRule : Rule := ⟨.output, .literal '.'⟩

/-- On the source `a+.`, the empty match in front of `a` does not hide the plus sign, and a rule `(?=a)`
more changes nothing. -/
theorem empty_match_hides_nothing :
    lookOrPlusRule.pattern.spans "a+.".toList = [⟨0, 0⟩, ⟨1, 2⟩] ∧
    (Rule.lexer [lookOrPlusRule, dotRule]).answer ⟨0, "a+.".toList⟩ =
      (.ok (.token ⟨.dataUp, "+", 1⟩), ⟨2, ['.']⟩) ∧
    InsertsIdle [lookOrPlusRule, dotRule] [lookOrPlusRule, lookRule .input, dotRule] ∧
    (Rule.lexer [lookOrPlusRule, lookRule .input, dotRule]).stream "a+." =
      (Rule.lexer [lookOrPlusRule, dotRule]).stream "a+." := by
  have hspans : lookOrPlusRule.pattern.spans "a+.".toList = [⟨0, 0⟩, ⟨1, 2⟩] := by decide +kernel
  have hplus : lookOrPlusRule.firstReal? "a+.".toList = some ⟨1, 2⟩ := by
    rw [firstReal?, hspans]
    rfl
  have hdot : dotRule.firstReal? "a+.".toList = some ⟨2, 3⟩ := by decide +kernel
  have hinserts : InsertsIdle [lookOrPlusRule, dotRule] [lookOrPlusRule, lookRule .input, dotRule] :=
    .keep _ (.insert (idle_ahead _ _ _) (.keep _ .nil))
  obtain ⟨-, hanswer, -, hstream⟩ := stream_takes_earliest [lookOrPlusRule, dotRule] "a+."
  refine ⟨hspans, ?_, hinserts, hstream _ hinserts⟩
  have htakes := hanswer 0 (Nat.zero_le _)
  rw [List.drop_zero] at htakes
  generalize (Rule.lexer [lookOrPlusRule, dotRule]).answer ⟨0, "a+.".toList⟩ = answer at htakes ⊢
  cases htakes with
  | finish hnone => exact absurd ((hnone _ List.mem_cons_self).symm.trans hplus) nofun
  | @token rule span hleads =>
    have hstart := hleads.start_le List.mem_cons_self hplus
    have hfirst := hleads.first
    obtain ⟨before, after, hrules, -⟩ := hleads.place
    have hmem : rule ∈ [lookOrPlusRule, dotRule] := by simp [hrules]
    rw [List.mem_cons, List.mem_singleton] at hmem
    obtain rfl | rfl := hmem
    · obtain rfl := Option.some.inj (hfirst.symm.trans hplus)
      rfl
    · obtain rfl := Option.some.inj (hfirst.symm.trans hdot)
      simp at hstart

end Rule

end TapeLang
