import Mathlib.Tactic.Common
import TapeLang.Language

/-!
# The stream of a lexer

A stream is cut off after as many readings as the source has characters.  Since every step of a lexer
consumes something, nothing is cut off, and what a stream holds can be told from single steps.

* `Lexer.Foretells`: a relation between cursors and lists of readings that goes along with each step.
* `Lexer.stream_eq`: what is foretold at the beginning of a source is the whole stream.
* **`brainfuck_stream`**: the symbols of Brainfuck, written one after the other, are read as the commands
  that they stand for.
-/

namespace TapeLang

namespace Lexer

/-- The readings that are ahead of a cursor begin with what the next step reads, and the others are
ahead of where the step ends; where there is no step, nothing is ahead. -/
structure Foretells (lexer : Lexer) (Ahead : Cursor → List Reading → Prop) : Prop where
  stop : ∀ cursor readings, Ahead cursor readings → lexer.step cursor = none → readings = []
  step : ∀ cursor readings reading next, Ahead cursor readings →
    lexer.step cursor = some (reading, next) → ∃ more, readings = reading :: more ∧ Ahead next more

variable {lexer : Lexer} {Ahead : Cursor → List Reading → Prop}

lemma readings_eq (h : lexer.Foretells Ahead) {limit : Nat} {cursor : Cursor}
    {readings : List Reading} (hahead : Ahead cursor readings)
    (hlimit : cursor.rest.length ≤ limit) : lexer.readings limit cursor = readings := by
  induction limit generalizing cursor readings with
  | zero =>
    -- nothing is left, so a step would have nothing to consume
    cases hstep : lexer.step cursor with
    | none => rw [Lexer.readings, h.stop cursor readings hahead hstep]
    | some taken =>
      have hconsumes := lexer.consumes hstep
      omega
  | succ limit ih =>
    rw [Lexer.readings]
    cases hstep : lexer.step cursor with
    | none => rw [h.stop cursor readings hahead hstep]
    | some taken =>
      obtain ⟨reading, next⟩ := taken
      obtain ⟨more, rfl, hnext⟩ := h.step cursor readings reading next hahead hstep
      have hconsumes := lexer.consumes hstep
      simp only
      rw [ih hnext (by omega)]

lemma stream_eq (h : lexer.Foretells Ahead) {source : String} {readings : List Reading}
    (hahead : Ahead (Cursor.start source.toList) readings) :
    lexer.stream source = ⟨readings, source.toList.length⟩ := by
  have hreadings : lexer.readings source.toList.length (Cursor.start source.toList) = readings :=
    readings_eq h hahead (Nat.le_refl _)
  rw [stream, hreadings]

end Lexer

/-! ## Brainfuck -/

/-- The Brainfuck of a list of commands. -/
def brainfuckText (commands : List TokenKind) : String :=
  String.ofList (commands.map brainfuckSymbol)

/-- The tokens of commands that are written one after the other from a position on. -/
def brainfuckTokens (pos : Nat) : List TokenKind → List Token
  | [] => []
  | command :: more =>
    { kind := command, text := String.ofList [brainfuckSymbol command], pos } ::
      brainfuckTokens (pos + 1) more

lemma map_kind_brainfuckTokens (pos : Nat) (commands : List TokenKind) :
    (brainfuckTokens pos commands).map Token.kind = commands := by
  induction commands generalizing pos with
  | nil => rfl
  | cons command more ih => rw [brainfuckTokens, List.map_cons, ih]

lemma brainfuckTokens_append (pos : Nat) (first second : List TokenKind) :
    brainfuckTokens pos (first ++ second) =
      brainfuckTokens pos first ++ brainfuckTokens (pos + first.length) second := by
  induction first generalizing pos with
  | nil => rfl
  | cons command more ih =>
    rw [List.cons_append, brainfuckTokens, brainfuckTokens, ih, List.length_cons, List.cons_append,
      Nat.add_assoc, Nat.add_comm 1 more.length]

/-- A cursor in front of written commands, and the tokens of these commands. -/
def BrainfuckAhead (cursor : Cursor) (readings : List Reading) : Prop :=
  ∃ commands : List TokenKind, cursor.rest = commands.map brainfuckSymbol ∧
    readings = (brainfuckTokens cursor.pos commands).map .ok

lemma brainfuck_step_nil (pos : Nat) : brainfuckTable.lexer.step ⟨pos, []⟩ = none := rfl

lemma brainfuck_step_cons (command : TokenKind) (pos : Nat) (rest : List Char) :
    brainfuckTable.lexer.step ⟨pos, brainfuckSymbol command :: rest⟩ =
      some (.ok { kind := command, text := String.ofList [brainfuckSymbol command], pos },
        ⟨pos + 1, rest⟩) := by
  simp only [SymbolTable.lexer, SymbolTable.scan, SymbolTable.entryAt?_eq_find?]
  cases command <;> rfl

lemma brainfuck_foretells : brainfuckTable.lexer.Foretells BrainfuckAhead where
  stop := by
    rintro ⟨pos, rest⟩ readings ⟨commands, rfl, rfl⟩ hstep
    cases commands with
    | nil => rfl
    | cons command more => simp [brainfuck_step_cons] at hstep
  step := by
    rintro ⟨pos, rest⟩ readings reading next ⟨commands, rfl, rfl⟩ hstep
    cases commands with
    | nil => simp [brainfuck_step_nil] at hstep
    | cons command more =>
      rw [List.map_cons, brainfuck_step_cons, Option.some.injEq, Prod.mk.injEq] at hstep
      obtain ⟨rfl, rfl⟩ := hstep
      exact ⟨_, rfl, more, rfl, rfl⟩

/-- **Brainfuck reads what it writes.** -/
theorem brainfuck_stream (commands : List TokenKind) :
    brainfuckTable.lexer.stream (brainfuckText commands) =
      ⟨(brainfuckTokens 0 commands).map .ok, commands.length⟩ := by
  have htext : (brainfuckText commands).toList = commands.map brainfuckSymbol := String.toList_ofList
  have hahead : BrainfuckAhead (Cursor.start (brainfuckText commands).toList)
      ((brainfuckTokens 0 commands).map .ok) := ⟨commands, htext, rfl⟩
  rw [Lexer.stream_eq brainfuck_foretells hahead, htext, List.length_map]

end TapeLang
