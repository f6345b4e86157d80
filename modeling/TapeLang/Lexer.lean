import TapeLang.Token
import TapeLang.ParseError

/-!
# Lexers and token streams

A lexer reads a source text from left to right.  It keeps a `Cursor`, the part of the text that is
still unread together with its position, and each of its steps either yields a `Reading` (a token
or an error) and moves the cursor on, or reports that nothing more is to come.

Every step of a lexer consumes something (`Lexer.consumes`), so a text of `n` characters gives at
most `n` readings, and the whole stream of a text is a finite list: `Lexer.stream`.  An error does
not end a stream; reading goes on behind it.

* `Cursor`, `Reading`, `Lexer`: what a language has to supply.
* `TokenStream.next`: takes one item from a stream.  Once its readings are used up, a stream
  reports the end of the source, at the same position each time it is asked.
-/

namespace TapeLang

/-- The unread part of a source text and where it starts. -/
structure Cursor where
  pos : Nat
  rest : List Char
deriving DecidableEq, Repr

/-- The cursor at the beginning of a text. -/
def Cursor.start (source : List Char) : Cursor :=
  { pos := 0, rest := source }

/-- The cursor `count` characters further on. -/
def Cursor.skip (cursor : Cursor) (count : Nat) : Cursor :=
  { pos := cursor.pos + count, rest := cursor.rest.drop count }

/-- One result of reading a source: a token, or what is wrong instead. -/
abbrev Reading := Except ParseError Token

/-- The lexer of a language. -/
structure Lexer where
  /-- The next reading and the cursor behind it, or `none` if no token is left. -/
  step : Cursor → Option (Reading × Cursor)
  /-- Every reading consumes some of the text. -/
  consumes : ∀ {cursor reading next}, step cursor = some (reading, next) →
    next.rest.length < cursor.rest.length

/-- The tokens of a source: the readings still to come, and the position of the end. -/
structure TokenStream where
  pending : List Reading
  endPos : Nat

/-- Takes the next item from a stream. -/
def TokenStream.next (stream : TokenStream) : Except ParseError Item × TokenStream :=
  match stream.pending with
  | [] => (.ok (.finish stream.endPos), stream)
  | .ok token :: pending => (.ok (.token token), { stream with pending })
  | .error e :: pending => (.error e, { stream with pending })

namespace Lexer

/-- The readings from a cursor onwards, at most `limit` of them. -/
def readings (lexer : Lexer) : (limit : Nat) → Cursor → List Reading
  | 0, _ => []
  | limit + 1, cursor =>
    match lexer.step cursor with
    | none => []
    | some (reading, next) => reading :: lexer.readings limit next

/-- The token stream of a text.  Since each reading consumes a character, no reading is lost by
stopping after as many as there are characters. -/
def stream (lexer : Lexer) (source : String) : TokenStream :=
  let text := source.toList
  { pending := lexer.readings text.length (Cursor.start text), endPos := text.length }

end Lexer

end TapeLang
