import TapeLang.Pattern.Node

/-!
# Matching by backtracking

A node is matched from a place in a text.  There may be several ways, and they are tried in a fixed
order: earlier alternatives first, and repetitions as their greed says.  The order matters, since the
first way that lets the rest of the pattern match wins.

`Node.run` is written with a continuation: it is given what has to hold behind the node, and hands
it one place after another until one is accepted.

* `Focus` is a place in a text, with the characters before it and behind it.
* `Thread` is a focus together with the texts remembered on the way there.
* `Node.run` matches a node.
* `Node.run_reaches`: what a node hands to its continuation lies behind the place that it started
  from, in the same text.

A repetition that has matched the empty text is not tried again at the same place, so every match
comes to an end.  The bound on repetitions in `Node.run` is never reached: beyond the required
number each one starts further on in the text.
-/

namespace TapeLang.Pattern

/-! ## Places in a text -/

/-- A place in a text. -/
structure Focus where
  /-- The characters before the place, nearest first. -/
  before : List Char
  /-- Their number. -/
  pos : Nat
  /-- The characters behind the place. -/
  rest : List Char
deriving DecidableEq, Repr

namespace Focus

/-- The place before a text. -/
def start (text : List Char) : Focus :=
  { before := [], pos := 0, rest := text }

/-- Goes back by a number of characters, if there are so many. -/
def back? : Nat → Focus → Option Focus
  | 0, focus => some focus
  | _ + 1, ⟨[], _, _⟩ => none
  | count + 1, ⟨c :: before, pos, rest⟩ => back? count ⟨before, pos - 1, c :: rest⟩

/-- Whether the place lies between a character of a word and one that is none. -/
def atWordEdge (ascii : Bool) (focus : Focus) : Bool :=
  focus.before.head?.any (Category.word.holds ascii)
    != focus.rest.head?.any (Category.word.holds ascii)

/-- Whether the whole text is empty. -/
def inEmptyText (focus : Focus) : Bool :=
  focus.before.isEmpty && focus.rest.isEmpty

/-- One place lies behind another in the same text: the characters between them have passed from
behind the first to before the second. -/
def Reaches (a b : Focus) : Prop :=
  ∃ passed : List Char, a.rest = passed ++ b.rest ∧ b.before = passed.reverse ++ a.before ∧
    b.pos = a.pos + passed.length

theorem Reaches.refl (a : Focus) : a.Reaches a :=
  ⟨[], by simp⟩

theorem Reaches.trans {a b c : Focus} (hab : a.Reaches b) (hbc : b.Reaches c) : a.Reaches c := by
  obtain ⟨v, hv, hv', hv''⟩ := hab
  obtain ⟨w, hw, hw', hw''⟩ := hbc
  refine ⟨v ++ w, ?_, ?_, ?_⟩
  · rw [hv, hw, List.append_assoc]
  · rw [hw', hv', List.reverse_append, List.append_assoc]
  · rw [hw'', hv'', List.length_append, Nat.add_assoc]

/-- Passing one character. -/
theorem Reaches.step (before : List Char) (pos : Nat) (c : Char) (rest : List Char) :
    Reaches ⟨before, pos, c :: rest⟩ ⟨c :: before, pos + 1, rest⟩ :=
  ⟨[c], by simp⟩

end Focus

/-- Whether a condition holds at a place.  In an empty text there are neither edges of words nor
places that are none. -/
def Anchor.holds : Anchor → Focus → Bool
  | .textStart, focus => focus.before.isEmpty
  | .textEnd, focus => focus.rest.isEmpty
  | .lineStart, focus => focus.before.isEmpty || focus.before.head? == some '\n'
  | .lineEnd, focus => focus.rest.isEmpty || focus.rest.head? == some '\n'
  | .lastLineEnd, focus => focus.rest.isEmpty || focus.rest == ['\n']
  | .wordEdge ascii, focus => !focus.inEmptyText && focus.atWordEdge ascii
  | .notWordEdge ascii, focus => !focus.inEmptyText && !focus.atWordEdge ascii

/-! ## Threads -/

/-- A place in a text, and the texts remembered on the way there, latest first. -/
structure Thread where
  focus : Focus
  captures : List (Nat × List Char)
deriving DecidableEq, Repr

namespace Thread

/-- The text remembered under a number. -/
def captured? (thread : Thread) (number : Nat) : Option (List Char) :=
  thread.captures.lookup number

/-- Remembers the text between an earlier place and the present one. -/
def capture (thread : Thread) (number : Nat) (start : Focus) : Thread :=
  { thread with
    captures := (number, start.rest.take (thread.focus.pos - start.pos)) :: thread.captures }

end Thread

/-- A way to match: given a thread and what has to hold behind it, the first result. -/
abbrev Matcher := Thread → (Thread → Option Thread) → Option Thread

namespace Matcher

/-- Whether one more repetition may be tried, given the number of those made, the greatest number,
the present place, and the place at which the last optional one started. -/
def mayRepeat (count : Nat) (most : Option Nat) (pos : Nat) (last : Option Nat) : Bool :=
  most.all (decide <| count < ·) && last != some pos

/-- Repetitions, many before few. -/
def greedy (body : Matcher) (least : Nat) (most : Option Nat) :
    (bound count : Nat) → (last : Option Nat) → Matcher
  | 0, _, _ => fun _ _ => none
  | bound + 1, count, last => fun thread k =>
    if count < least then
      body thread fun next => greedy body least most bound (count + 1) last next k
    else if mayRepeat count most thread.focus.pos last then
      match body thread fun next =>
          greedy body least most bound (count + 1) (some thread.focus.pos) next k with
      | some result => some result
      | none => k thread
    else k thread

/-- Repetitions, few before many. -/
def reluctant (body : Matcher) (least : Nat) (most : Option Nat) :
    (bound count : Nat) → (last : Option Nat) → Matcher
  | 0, _, _ => fun _ _ => none
  | bound + 1, count, last => fun thread k =>
    if count < least then
      body thread fun next => reluctant body least most bound (count + 1) last next k
    else
      match k thread with
      | some result => some result
      | none =>
        if mayRepeat count most thread.focus.pos last then
          body thread fun next =>
            reluctant body least most bound (count + 1) (some thread.focus.pos) next k
        else none

/-- As many repetitions as possible, each in the first way that it matches. -/
def possessive (body : Matcher) (least : Nat) (most : Option Nat) :
    (bound count : Nat) → (last : Option Nat) → Thread → Option Thread
  | 0, _, _ => fun _ => none
  | bound + 1, count, last => fun thread =>
    if count < least then
      match body thread some with
      | some next => possessive body least most bound (count + 1) last next
      | none => none
    else if mayRepeat count most thread.focus.pos last then
      match body thread some with
      | some next =>
        possessive body least most bound (count + 1) (some thread.focus.pos) next
      | none => some thread
    else some thread

/-- Matches a given text, letter by letter. -/
def literally (mode : CaseMode) : List Char → Focus → Option Focus
  | [], focus => some focus
  | _ :: _, ⟨_, _, []⟩ => none
  | c :: text, ⟨before, pos, d :: rest⟩ =>
    if c = d ∨ (mode.ignoreCase ∧ mode.lower c = mode.lower d) then
      literally mode text ⟨d :: before, pos + 1, rest⟩
    else none

end Matcher

/-- Matches a node. -/
def Node.run : Node → Matcher
  | .empty => fun thread k => k thread
  | .char test => fun thread k =>
    match thread.focus with
    | ⟨_, _, []⟩ => none
    | ⟨before, pos, c :: rest⟩ =>
      if test.accepts c then k { thread with focus := ⟨c :: before, pos + 1, rest⟩ } else none
  | .anchor condition => fun thread k => if condition.holds thread.focus then k thread else none
  | .seq first second => fun thread k => first.run thread fun next => second.run next k
  | .alt first second => fun thread k =>
    match first.run thread k with
    | some result => some result
    | none => second.run thread k
  | .rep .greedy least most body => fun thread k =>
    Matcher.greedy body.run least most (least + thread.focus.rest.length + 2) 0 none thread k
  | .rep .lazy least most body => fun thread k =>
    Matcher.reluctant body.run least most (least + thread.focus.rest.length + 2) 0 none thread k
  | .rep .possessive least most body => fun thread k =>
    match Matcher.possessive body.run least most (least + thread.focus.rest.length + 2) 0 none
        thread with
    | some next => k next
    | none => none
  | .group number body => fun thread k =>
    body.run thread fun next => k (next.capture number thread.focus)
  | .atomic body => fun thread k =>
    match body.run thread some with
    | some next => k next
    | none => none
  | .ahead positive body => fun thread k =>
    match positive, body.run thread some with
    | true, some next => k { thread with captures := next.captures }
    | false, none => k thread
    | _, _ => none
  | .behind positive width body => fun thread k =>
    match positive, (thread.focus.back? width).bind fun focus =>
        body.run { thread with focus } some with
    | true, some next => k { thread with captures := next.captures }
    | false, none => k thread
    | _, _ => none
  | .backref number mode => fun thread k =>
    match thread.captured? number with
    | none => none
    | some text =>
      match Matcher.literally mode text thread.focus with
      | some focus => k { thread with focus }
      | none => none
  | .ifGroup number yes no => fun thread k =>
    if (thread.captured? number).isSome then yes.run thread k else no.run thread k

/-! ## Matching moves forward -/

/-- A matcher that hands on only threads behind the one it started from. -/
def Matcher.Forward (matcher : Matcher) : Prop :=
  ∀ {thread : Thread} {k : Thread → Option Thread} {result : Thread},
    matcher thread k = some result →
      ∃ next : Thread, thread.focus.Reaches next.focus ∧ k next = some result

namespace Matcher

theorem forward_greedy {body : Matcher} (hbody : body.Forward) (least : Nat) (most : Option Nat)
    (bound : Nat) : ∀ (count : Nat) (last : Option Nat),
      (greedy body least most bound count last).Forward := by
  induction bound with
  | zero => intro count last thread k result h; exact absurd h nofun
  | succ bound ih =>
    intro count last thread k result h
    have advance : ∀ {count last},
        body thread (fun next => greedy body least most bound count last next k) = some result →
          ∃ next : Thread, thread.focus.Reaches next.focus ∧ k next = some result := by
      intro count last h
      obtain ⟨next, hnext, h⟩ := hbody h
      obtain ⟨final, hfinal, h⟩ := ih _ _ h
      exact ⟨final, hnext.trans hfinal, h⟩
    simp only [greedy] at h
    split at h
    · exact advance h
    · split at h
      · split at h
        · next hmore => exact advance (h ▸ hmore)
        · exact ⟨thread, .refl _, h⟩
      · exact ⟨thread, .refl _, h⟩

theorem forward_reluctant {body : Matcher} (hbody : body.Forward) (least : Nat)
    (most : Option Nat) (bound : Nat) : ∀ (count : Nat) (last : Option Nat),
      (reluctant body least most bound count last).Forward := by
  induction bound with
  | zero => intro count last thread k result h; exact absurd h nofun
  | succ bound ih =>
    intro count last thread k result h
    have advance : ∀ {count last},
        body thread (fun next => reluctant body least most bound count last next k) = some result →
          ∃ next : Thread, thread.focus.Reaches next.focus ∧ k next = some result := by
      intro count last h
      obtain ⟨next, hnext, h⟩ := hbody h
      obtain ⟨final, hfinal, h⟩ := ih _ _ h
      exact ⟨final, hnext.trans hfinal, h⟩
    simp only [reluctant] at h
    split at h
    · exact advance h
    · split at h
      · next hk => exact ⟨thread, .refl _, h ▸ hk⟩
      · split at h
        · exact advance h
        · exact absurd h nofun

theorem reaches_possessive {body : Matcher} (hbody : body.Forward) (least : Nat)
    (most : Option Nat) (bound : Nat) : ∀ {count : Nat} {last : Option Nat} {thread next : Thread},
      possessive body least most bound count last thread = some next →
        thread.focus.Reaches next.focus := by
  induction bound with
  | zero => intro count last thread next h; exact absurd h nofun
  | succ bound ih =>
    intro count last thread next h
    simp only [possessive] at h
    split at h
    · split at h
      · next hfirst =>
        obtain ⟨_, hreach, heq⟩ := hbody hfirst
        cases heq
        exact hreach.trans (ih h)
      · exact absurd h nofun
    · split at h
      · split at h
        · next hfirst =>
          obtain ⟨_, hreach, heq⟩ := hbody hfirst
          cases heq
          exact hreach.trans (ih h)
        · cases h; exact .refl _
      · cases h; exact .refl _

theorem reaches_literally {mode : CaseMode} : ∀ {text : List Char} {focus next : Focus},
    literally mode text focus = some next → focus.Reaches next
  | [], _, _, h => by cases h; exact .refl _
  | _ :: _, ⟨_, _, []⟩, _, h => by simp [literally] at h
  | c :: text, ⟨before, pos, d :: rest⟩, next, h => by
    rw [literally] at h
    split at h
    · exact (Focus.Reaches.step before pos d rest).trans (reaches_literally h)
    · exact absurd h nofun

end Matcher

/-- A node hands its continuation only places behind the one it started from. -/
theorem Node.run_reaches (node : Node) : node.run.Forward := by
  induction node with
  | empty => intro thread k result h; exact ⟨thread, .refl _, h⟩
  | char test =>
    intro thread k result h
    simp only [Node.run] at h
    split at h
    · exact absurd h nofun
    · next before pos c rest hfocus =>
      split at h
      · exact ⟨_, hfocus ▸ Focus.Reaches.step before pos c rest, h⟩
      · exact absurd h nofun
  | anchor condition =>
    intro thread k result h
    simp only [Node.run] at h
    split at h
    · exact ⟨thread, .refl _, h⟩
    · exact absurd h nofun
  | seq first second ihfirst ihsecond =>
    intro thread k result h
    obtain ⟨next, hnext, h⟩ := ihfirst h
    obtain ⟨final, hfinal, h⟩ := ihsecond h
    exact ⟨final, hnext.trans hfinal, h⟩
  | alt first second ihfirst ihsecond =>
    intro thread k result h
    simp only [Node.run] at h
    split at h
    · next hfirst => exact ihfirst (h ▸ hfirst)
    · exact ihsecond h
  | rep greed least most body ih =>
    intro thread k result h
    cases greed with
    | greedy => exact Matcher.forward_greedy ih _ _ _ _ _ h
    | lazy => exact Matcher.forward_reluctant ih _ _ _ _ _ h
    | possessive =>
      simp only [Node.run] at h
      split at h
      · next next hnext => exact ⟨next, Matcher.reaches_possessive ih _ _ _ hnext, h⟩
      · exact absurd h nofun
  | group number body ih =>
    intro thread k result h
    obtain ⟨next, hnext, h⟩ := ih h
    exact ⟨next.capture number thread.focus, hnext, h⟩
  | atomic body ih =>
    intro thread k result h
    simp only [Node.run] at h
    split at h
    · next next hnext =>
      obtain ⟨_, hreach, heq⟩ := ih hnext
      cases heq
      exact ⟨next, hreach, h⟩
    · exact absurd h nofun
  | ahead positive body ih =>
    intro thread k result h
    simp only [Node.run] at h
    split at h
    · next next _ => exact ⟨{ thread with captures := next.captures }, .refl _, h⟩
    · exact ⟨thread, .refl _, h⟩
    · exact absurd h nofun
  | behind positive width body ih =>
    intro thread k result h
    simp only [Node.run] at h
    split at h
    · next next _ => exact ⟨{ thread with captures := next.captures }, .refl _, h⟩
    · exact ⟨thread, .refl _, h⟩
    · exact absurd h nofun
  | backref number mode =>
    intro thread k result h
    simp only [Node.run] at h
    split at h
    · exact absurd h nofun
    · split at h
      · next focus hfocus => exact ⟨_, Matcher.reaches_literally hfocus, h⟩
      · exact absurd h nofun
  | ifGroup number yes no ihyes ihno =>
    intro thread k result h
    simp only [Node.run] at h
    split at h
    · exact ihyes h
    · exact ihno h

end TapeLang.Pattern
