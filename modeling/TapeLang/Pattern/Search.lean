import TapeLang.Pattern.Match

/-!
# Searching a text

* `Node.findReal` finds the first match of a pattern in a text that is not empty: the leftmost place
  at which there is one, and there the one that comes first in the order of backtracking.
* `Node.spans` lists all matches of a pattern from left to right.  A match starts where the one
  before it ended, or later; behind an empty match the next one has to be longer or to lie further
  on.
* `Node.matchesEmpty` tells whether a pattern matches the empty text.
-/

namespace TapeLang.Pattern

/-- A part of a text, from `start` up to, and without, `stop`. -/
structure Span where
  start : Nat
  stop : Nat
deriving DecidableEq, Repr

namespace Node

/-- The first match from a place that ends where it may. -/
def matchFrom (node : Node) (focus : Focus) (mayEnd : Focus → Bool) : Option Focus :=
  (node.run ⟨focus, []⟩ fun thread => if mayEnd thread.focus then some thread else none).map
    Thread.focus

/-- The end of the first match from a place that is not empty. -/
def realAt? (node : Node) (focus : Focus) : Option Nat :=
  (node.matchFrom focus fun final => final.pos != focus.pos).map Focus.pos

/-- Whether a pattern matches the empty text. -/
def matchesEmpty (node : Node) : Bool :=
  (node.matchFrom (Focus.start []) fun final => final.rest.isEmpty).isSome

/-- The first match that is not empty and starts behind the characters `before`. -/
def findRealFrom (node : Node) (before : List Char) (pos : Nat) : List Char → Option Span
  | [] => (node.realAt? ⟨before, pos, []⟩).map (Span.mk pos)
  | c :: rest =>
    match node.realAt? ⟨before, pos, c :: rest⟩ with
    | some stop => some ⟨pos, stop⟩
    | none => node.findRealFrom (c :: before) (pos + 1) rest

/-- The first match in a text that is not empty. -/
def findReal (node : Node) (text : List Char) : Option Span :=
  node.findRealFrom [] 0 text

/-! ## All matches -/

/-- The first match from a place onwards; at the place itself an empty match may be excluded. -/
def nextSpan (node : Node) (before : List Char) (pos : Nat) (mustAdvance : Bool) :
    List Char → Option (Nat × Focus)
  | [] =>
    (node.matchFrom ⟨before, pos, []⟩ fun final => !mustAdvance || final.pos != pos).map
      (Prod.mk pos)
  | c :: rest =>
    match node.matchFrom ⟨before, pos, c :: rest⟩ fun final => !mustAdvance || final.pos != pos with
    | some final => some (pos, final)
    | none => node.nextSpan (c :: before) (pos + 1) false rest

/-- All matches from a place onwards, at most `limit` of them. -/
def spansFrom (node : Node) : (limit : Nat) → Focus → (mustAdvance : Bool) → List Span
  | 0, _, _ => []
  | limit + 1, focus, mustAdvance =>
    match node.nextSpan focus.before focus.pos mustAdvance focus.rest with
    | none => []
    | some (start, final) =>
      ⟨start, final.pos⟩ :: node.spansFrom limit final (start == final.pos)

/-- All matches in a text.  There are at most two at each place, an empty one and one that is
not. -/
def spans (node : Node) (text : List Char) : List Span :=
  node.spansFrom (2 * text.length + 2) (Focus.start text) false

/-! ## Where matches lie -/

/-- A match that is not empty ends behind its beginning and inside the text. -/
theorem realAt?_bounds {node : Node} {focus : Focus} {stop : Nat}
    (h : node.realAt? focus = some stop) :
    focus.pos < stop ∧ stop ≤ focus.pos + focus.rest.length := by
  simp only [realAt?, matchFrom, Option.map_map, Option.map_eq_some_iff] at h
  obtain ⟨result, hrun, hstop⟩ := h
  obtain ⟨next, ⟨passed, hrest, _, hpos⟩, hk⟩ := node.run_reaches hrun
  simp only at hrest hpos
  split at hk
  · next hne =>
    cases hk
    simp only [Function.comp_apply] at hstop
    simp only [bne_iff_ne] at hne
    rw [hrest, List.length_append]
    omega
  · exact absurd hk nofun

/-- The first match that is not empty lies inside the text that is searched. -/
theorem findRealFrom_bounds {node : Node} {before : List Char} {pos : Nat} {rest : List Char}
    {span : Span} (h : node.findRealFrom before pos rest = some span) :
    pos ≤ span.start ∧ span.start < span.stop ∧ span.stop ≤ pos + rest.length := by
  induction rest generalizing before pos with
  | nil =>
    simp only [findRealFrom, Option.map_eq_some_iff] at h
    obtain ⟨stop, hreal, rfl⟩ := h
    have := realAt?_bounds hreal
    exact ⟨Nat.le_refl _, this.1, this.2⟩
  | cons c rest ih =>
    rw [findRealFrom] at h
    split at h
    · next stop hreal =>
      cases h
      have := realAt?_bounds hreal
      exact ⟨Nat.le_refl _, this.1, this.2⟩
    · have := ih h
      simp only [List.length_cons]
      omega

/-- The first match that is not empty lies inside the text. -/
theorem findReal_bounds {node : Node} {text : List Char} {span : Span}
    (h : node.findReal text = some span) : span.start < span.stop ∧ span.stop ≤ text.length := by
  have := findRealFrom_bounds h
  omega

end Node

end TapeLang.Pattern
