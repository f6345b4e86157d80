import Mathlib.Tactic.Choose
import Mathlib.Tactic.Common
import TapeLang.Pattern.Search

/-!
# Searching among all matches

The matches of a pattern in a text are listed from left to right, empty ones included.  Behind an empty
match the next one has to be longer or to lie further on.  A search that looks at one place after the other
for a match that is not empty finds the first one of that list: an empty match hides nothing behind it.

The reason is that a matcher does not look ahead.  It hands one thread after the other to what comes
behind it, in an order that does not depend on which of them will be accepted.

* `Matcher.Tries` — a matcher tries a fixed list of threads; `Node.tries` says that every node does;
* `Node.exists_ends` — the places where a match may end, in the order in which they are tried;
* `Node.nextSpan_cases` — the next match of a list is none, or the real one, or an empty one in front of it;
* **`Node.find?_spans`** — the first match that is not empty is the one that a search finds;
* `Node.spans_inOrder` — matches are listed from left to right.
-/

namespace TapeLang.Pattern

/-! ## Matchers try one thread after the other -/

/-- What is handed to the continuation does not depend on the continuation. -/
def Tries (attempt : (Thread → Option Thread) → Option Thread) : Prop :=
  ∃ threads : List Thread, ∀ k, attempt k = threads.findSome? k

namespace Tries

variable {attempt other : (Thread → Option Thread) → Option Thread}

lemma findSome?_flatMap (threads : List Thread) (behind : Thread → List Thread)
    (k : Thread → Option Thread) :
    (threads.flatMap behind).findSome? k = threads.findSome? fun next => (behind next).findSome? k := by
  induction threads with
  | nil => rfl
  | cons thread threads ih =>
    rw [List.flatMap_cons, List.findSome?_append, ih, List.findSome?_cons]
    cases (behind thread).findSome? k <;> rfl

lemma single (next : Thread) : Tries fun k => k next := by
  refine ⟨[next], fun k => ?_⟩
  cases h : k next <;> simp [h]

lemma nothing : Tries fun _ => none := ⟨[], fun _ => rfl⟩

lemma bind (h : Tries attempt) {more : Thread → (Thread → Option Thread) → Option Thread}
    (hmore : ∀ next, Tries (more next)) : Tries fun k => attempt fun next => more next k := by
  obtain ⟨threads, hthreads⟩ := h
  choose behind hbehind using hmore
  refine ⟨threads.flatMap behind, fun k => ?_⟩
  simp only [hthreads, hbehind, findSome?_flatMap]

lemma or (h : Tries attempt) (hother : Tries other) :
    Tries fun k =>
      match attempt k with
      | some result => some result
      | none => other k := by
  obtain ⟨threads, hthreads⟩ := h
  obtain ⟨more, hmore⟩ := hother
  refine ⟨threads ++ more, fun k => ?_⟩
  simp only [hthreads, hmore, List.findSome?_append]
  cases threads.findSome? k <;> rfl

end Tries

namespace Matcher

variable {body : Matcher}

lemma greedy_tries (hbody : ∀ thread, Tries (body thread)) (least : Nat) (most : Option Nat)
    (bound count : Nat) (last : Option Nat) (thread : Thread) :
    Tries (greedy body least most bound count last thread) := by
  induction bound generalizing count last thread with
  | zero => exact Tries.nothing
  | succ bound ih =>
    unfold greedy
    split_ifs
    · exact (hbody thread).bind fun next => ih (count + 1) last next
    · exact ((hbody thread).bind fun next => ih (count + 1) _ next).or (Tries.single thread)
    · exact Tries.single thread

lemma reluctant_tries (hbody : ∀ thread, Tries (body thread)) (least : Nat) (most : Option Nat)
    (bound count : Nat) (last : Option Nat) (thread : Thread) :
    Tries (reluctant body least most bound count last thread) := by
  induction bound generalizing count last thread with
  | zero => exact Tries.nothing
  | succ bound ih =>
    unfold reluctant
    split_ifs
    · exact (hbody thread).bind fun next => ih (count + 1) last next
    · exact (Tries.single thread).or ((hbody thread).bind fun next => ih (count + 1) _ next)
    · exact (Tries.single thread).or Tries.nothing

end Matcher

lemma Node.tries (node : Node) (thread : Thread) : Tries (node.run thread) := by
  induction node generalizing thread with
  | empty => exact Tries.single thread
  | char test =>
    simp only [Node.run]
    split
    · exact Tries.nothing
    · split_ifs
      · exact Tries.single _
      · exact Tries.nothing
  | anchor condition =>
    simp only [Node.run]
    split_ifs
    · exact Tries.single thread
    · exact Tries.nothing
  | seq first second ihfirst ihsecond => exact (ihfirst thread).bind ihsecond
  | alt first second ihfirst ihsecond => exact (ihfirst thread).or (ihsecond thread)
  | rep greed least most body ih =>
    cases greed with
    | greedy => exact Matcher.greedy_tries ih _ _ _ _ _ thread
    | lazy => exact Matcher.reluctant_tries ih _ _ _ _ _ thread
    | possessive =>
      simp only [Node.run]
      split
      · exact Tries.single _
      · exact Tries.nothing
  | group number body ih => exact (ih thread).bind fun next => Tries.single _
  | atomic body ih =>
    simp only [Node.run]
    split
    · exact Tries.single _
    · exact Tries.nothing
  | ahead positive body ih =>
    simp only [Node.run]
    split
    · exact Tries.single _
    · exact Tries.single thread
    · exact Tries.nothing
  | behind positive width body ih =>
    simp only [Node.run]
    split
    · exact Tries.single _
    · exact Tries.single thread
    · exact Tries.nothing
  | backref number mode =>
    simp only [Node.run]
    split
    · exact Tries.nothing
    · split
      · exact Tries.single _
      · exact Tries.nothing
  | ifGroup number yes no ihyes ihno =>
    simp only [Node.run]
    split_ifs
    · exact ihyes thread
    · exact ihno thread

/-! ## Where a match may end -/

namespace Node

variable (node : Node)

lemma exists_ends (focus : Focus) :
    ∃ ends : List Focus, ∀ mayEnd, node.matchFrom focus mayEnd = ends.find? mayEnd := by
  obtain ⟨threads, hthreads⟩ := node.tries ⟨focus, []⟩
  refine ⟨threads.map Thread.focus, fun mayEnd => ?_⟩
  rw [matchFrom, hthreads, List.find?_map, List.find?_eq_findSome?_guard]
  rfl

variable {node}

lemma reaches_of_matchFrom {focus final : Focus} {mayEnd : Focus → Bool}
    (h : node.matchFrom focus mayEnd = some final) : focus.Reaches final ∧ mayEnd final = true := by
  obtain ⟨thread, hrun, rfl⟩ := Option.map_eq_some_iff.mp h
  obtain ⟨next, hreaches, hnext⟩ := node.run_reaches hrun
  split at hnext
  · next hend =>
    cases hnext
    exact ⟨hreaches, hend⟩
  · simp at hnext

lemma eq_of_reaches {focus final : Focus} (h : focus.Reaches final) (hpos : final.pos = focus.pos) :
    final = focus := by
  obtain ⟨passed, hrest, hbefore, hlength⟩ := h
  have hpassed : passed = [] := List.length_eq_zero_iff.mp (by omega)
  subst hpassed
  cases focus
  cases final
  simp_all

section Narrowing

-- fewer places are accepted: what was tried first and still is accepted stays first
variable {focus final : Focus} {mayEnd mustEnd : Focus → Bool}
  (himp : ∀ place, mustEnd place = true → mayEnd place = true)
include himp

lemma matchFrom_narrow (h : node.matchFrom focus mayEnd = some final) (hfinal : mustEnd final = true) :
    node.matchFrom focus mustEnd = some final := by
  obtain ⟨ends, hends⟩ := node.exists_ends focus
  rw [hends] at h ⊢
  obtain ⟨-, before, after, rfl, hbefore⟩ := List.find?_eq_some_iff_append.mp h
  refine List.find?_eq_some_iff_append.mpr ⟨hfinal, before, after, rfl, fun place hplace => ?_⟩
  have hmay := hbefore place hplace
  cases hmust : mustEnd place with
  | false => rfl
  | true => simp [himp place hmust] at hmay

lemma matchFrom_narrow_none (h : node.matchFrom focus mayEnd = none) :
    node.matchFrom focus mustEnd = none := by
  obtain ⟨ends, hends⟩ := node.exists_ends focus
  rw [hends] at h ⊢
  rw [List.find?_eq_none] at h ⊢
  exact fun place hplace hmust => h place hplace (himp place hmust)

end Narrowing

/-- **The match at one place.**  There is none, or it is not empty, or it is empty, which has to be
allowed. -/
lemma matchFrom_cases (node : Node) (focus : Focus) (mustAdvance : Bool) {first : Option Focus}
    (h : node.matchFrom focus (fun final => !mustAdvance || final.pos != focus.pos) = first) :
    (first = none ∧ node.realAt? focus = none) ∨
    (∃ final, first = some final ∧ final.pos ≠ focus.pos ∧ node.realAt? focus = some final.pos) ∨
    (first = some focus ∧ mustAdvance = false) := by
  have himp : ∀ final : Focus, (final.pos != focus.pos) = true →
      (!mustAdvance || final.pos != focus.pos) = true := by
    intro final hfinal
    rw [hfinal, Bool.or_true]
  cases first with
  | none => exact .inl ⟨rfl, by rw [realAt?, matchFrom_narrow_none himp h, Option.map_none]⟩
  | some final =>
    by_cases hpos : final.pos = focus.pos
    · obtain ⟨hreaches, hmay⟩ := reaches_of_matchFrom h
      rw [eq_of_reaches hreaches hpos] at hmay ⊢
      exact .inr (.inr ⟨rfl, by simpa using hmay⟩)
    · have hreal := matchFrom_narrow himp h (bne_iff_ne.mpr hpos)
      exact .inr (.inl ⟨final, rfl, hpos, by rw [realAt?, hreal, Option.map_some]⟩)

/-! ## All matches of a text -/

/-- **The next match.**  If there is none, there is none that is not empty either.  If it is not empty, it
is the one that a search finds.  If it is empty, a search from there finds what a search from here
finds. -/
lemma nextSpan_cases (node : Node) (before : List Char) (pos : Nat) (mustAdvance : Bool)
    (rest : List Char) :
    (node.nextSpan before pos mustAdvance rest = none ∧ node.findRealFrom before pos rest = none) ∨
    (∃ start final, node.nextSpan before pos mustAdvance rest = some (start, final) ∧
      node.findRealFrom before pos rest = some ⟨start, final.pos⟩) ∨
    ∃ final : Focus, node.nextSpan before pos mustAdvance rest = some (final.pos, final) ∧
      final.rest.length ≤ rest.length ∧ (mustAdvance = true → final.rest.length < rest.length) ∧
      node.findRealFrom before pos rest = node.findRealFrom final.before final.pos final.rest := by
  induction rest generalizing before pos mustAdvance with
  | nil =>
    obtain ⟨hfirst, hreal⟩ | ⟨final, hfirst, -, hreal⟩ | ⟨hfirst, hmay⟩ :=
      node.matchFrom_cases ⟨before, pos, []⟩ mustAdvance rfl
    · exact .inl ⟨by rw [nextSpan, hfirst]; rfl, by rw [findRealFrom, hreal]; rfl⟩
    · exact .inr (.inl ⟨pos, final, by rw [nextSpan, hfirst]; rfl, by rw [findRealFrom, hreal]; rfl⟩)
    · refine .inr (.inr ⟨⟨before, pos, []⟩, by rw [nextSpan, hfirst]; rfl, Nat.le_refl _, ?_, rfl⟩)
      simp [hmay]
  | cons c rest ih =>
    obtain ⟨hfirst, hreal⟩ | ⟨final, hfirst, -, hreal⟩ | ⟨hfirst, hmay⟩ :=
      node.matchFrom_cases ⟨before, pos, c :: rest⟩ mustAdvance rfl
    · have hnext : node.nextSpan before pos mustAdvance (c :: rest) =
          node.nextSpan (c :: before) (pos + 1) false rest := by rw [nextSpan, hfirst]
      have hfind : node.findRealFrom before pos (c :: rest) =
          node.findRealFrom (c :: before) (pos + 1) rest := by rw [findRealFrom, hreal]
      rw [hnext, hfind, List.length_cons]
      obtain hnone | hfound | ⟨final, hfinal, hlength, -, hsame⟩ := ih (c :: before) (pos + 1) false
      · exact .inl hnone
      · exact .inr (.inl hfound)
      · exact .inr (.inr ⟨final, hfinal, by omega, fun _ => by omega, hsame⟩)
    · exact .inr (.inl ⟨pos, final, by rw [nextSpan, hfirst], by rw [findRealFrom, hreal]⟩)
    · refine .inr (.inr ⟨⟨before, pos, c :: rest⟩, by rw [nextSpan, hfirst], Nat.le_refl _, ?_, rfl⟩)
      simp [hmay]

end Node

/-- A match that is not empty. -/
def Span.isReal (span : Span) : Bool :=
  decide (span.start < span.stop)

namespace Node

lemma find?_spansFrom {node : Node} {limit : Nat} {focus : Focus} {mustAdvance : Bool}
    (hlimit : 2 * focus.rest.length + (if mustAdvance then 0 else 1) < limit) :
    (node.spansFrom limit focus mustAdvance).find? Span.isReal =
      node.findRealFrom focus.before focus.pos focus.rest := by
  -- an empty match uses up one of the limit, and after it the place has to change
  induction limit generalizing focus mustAdvance with
  | zero => omega
  | succ limit ih =>
    rw [spansFrom]
    obtain ⟨hnext, hfind⟩ | ⟨start, final, hnext, hfind⟩ | ⟨final, hnext, hlength, hshorter, hfind⟩ :=
      node.nextSpan_cases focus.before focus.pos mustAdvance focus.rest
    · rw [hnext, hfind]
      rfl
    · have hreal : Span.isReal ⟨start, final.pos⟩ = true :=
        decide_eq_true (findRealFrom_bounds hfind).2.1
      rw [hnext, hfind]
      exact List.find?_cons_of_pos hreal
    · have hempty : ¬ Span.isReal ⟨final.pos, final.pos⟩ = true := by simp [Span.isReal]
      rw [hnext, hfind]
      simp only [List.find?_cons_of_neg hempty, beq_self_eq_true]
      apply ih
      cases mustAdvance with
      | false =>
        simp only [if_true, Bool.false_eq_true, if_false] at hlimit ⊢
        omega
      | true =>
        have := hshorter rfl
        simp only [if_true] at hlimit ⊢
        omega

/-- **The first match that is not empty**, among all matches of a text, is the one that a search finds. -/
theorem find?_spans (node : Node) (text : List Char) :
    (node.spans text).find? Span.isReal = node.findReal text :=
  find?_spansFrom (by simp [Focus.start])

/-! ## The order of the matches -/

lemma nextSpan_reaches {node : Node} {before : List Char} {pos start : Nat} {mustAdvance : Bool}
    {rest : List Char} {final : Focus}
    (h : node.nextSpan before pos mustAdvance rest = some (start, final)) :
    ∃ place : Focus, Focus.Reaches ⟨before, pos, rest⟩ place ∧ place.pos = start ∧
      place.Reaches final := by
  induction rest generalizing before pos mustAdvance with
  | nil =>
    obtain ⟨found, hfound, heq⟩ := Option.map_eq_some_iff.mp h
    obtain ⟨rfl, rfl⟩ := Prod.mk.inj heq
    exact ⟨_, .refl _, rfl, (reaches_of_matchFrom hfound).1⟩
  | cons c rest ih =>
    rw [nextSpan] at h
    split at h
    · next found hfound =>
      cases h
      exact ⟨_, .refl _, rfl, (reaches_of_matchFrom hfound).1⟩
    · obtain ⟨place, hplace, hstart, hfinal⟩ := ih h
      exact ⟨place, (Focus.Reaches.step before pos c rest).trans hplace, hstart, hfinal⟩

/-- The matches lie behind the place from which they are listed. -/
lemma spansFrom_bounds {node : Node} {limit : Nat} {focus : Focus} {mustAdvance : Bool} :
    ∀ span ∈ node.spansFrom limit focus mustAdvance,
      focus.pos ≤ span.start ∧ span.start ≤ span.stop ∧
        span.stop ≤ focus.pos + focus.rest.length := by
  induction limit generalizing focus mustAdvance with
  | zero => simp [spansFrom]
  | succ limit ih =>
    intro span hspan
    rw [spansFrom] at hspan
    split at hspan
    · simp at hspan
    · next start final hnext =>
      obtain ⟨place, ⟨passed, hpassed, -, hplace⟩, hstart, ⟨taken, htaken, -, hfinal⟩⟩ :=
        nextSpan_reaches hnext
      have hlength := congrArg List.length hpassed
      have hlength' := congrArg List.length htaken
      rw [List.length_append] at hlength hlength'
      simp only at hplace hlength
      rw [List.mem_cons] at hspan
      obtain rfl | hspan := hspan
      · simp only
        omega
      · have := ih span hspan
        omega

lemma spansFrom_ordered (node : Node) (limit : Nat) (focus : Focus) (mustAdvance : Bool) :
    (node.spansFrom limit focus mustAdvance).Pairwise fun earlier later =>
      earlier.stop ≤ later.start := by
  induction limit generalizing focus mustAdvance with
  | zero => exact List.Pairwise.nil
  | succ limit ih =>
    rw [spansFrom]
    split
    · exact List.Pairwise.nil
    · exact List.Pairwise.cons (fun later hlater => (spansFrom_bounds later hlater).1) (ih _ _)

/-- **The matches of a text are listed from left to right**, and all of them lie in the text. -/
lemma spans_inOrder (node : Node) (text : List Char) :
    ((node.spans text).Pairwise fun earlier later => earlier.start ≤ later.start) ∧
      ∀ span ∈ node.spans text, span.start ≤ span.stop ∧ span.stop ≤ text.length := by
  have hbounds : ∀ span ∈ node.spans text, span.start ≤ span.stop ∧ span.stop ≤ text.length := by
    intro span hspan
    obtain ⟨-, hstop, hinside⟩ := spansFrom_bounds span hspan
    simp only [Focus.start, Nat.zero_add] at hinside
    exact ⟨hstop, hinside⟩
  refine ⟨(node.spansFrom_ordered _ _ _).imp_of_mem ?_, hbounds⟩
  intro earlier later hearlier _ horder
  exact Nat.le_trans (hbounds earlier hearlier).1 horder

end Node

end TapeLang.Pattern
