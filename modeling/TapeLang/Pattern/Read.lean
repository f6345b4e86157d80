import TapeLang.Pattern.Fault
import TapeLang.Pattern.Node
import TapeLang.Text.Integer

/-!
# Reading patterns

A pattern is first cut into lexemes: a backslash and the character behind it belong together, and any
other character stands alone.  The lexemes are read from left to right by a reader with one lexeme of
look-ahead.  A backslash at the very end is reported as soon as it comes into view, which is before
anything that is wrong with the lexeme in front of it.

* `lexemes` cuts a pattern up.
* `Reader` is a step of reading: it looks at the lexemes ahead, keeps track of groups and flags, and
  may fail.
* `readChoice` and `readSequence` read alternatives and sequences, which contain each other.
* `Node.ofText` reads a whole pattern.

Numbers of groups are given out in the order of the opening brackets.  A look behind over texts of
different lengths is reported only when nothing else is wrong.

There is no table of the names of characters.  A character that is given by its name is therefore refused
as unknown, whatever the name (`namedCode`), where an engine with such a table would accept it.
-/

namespace TapeLang.Pattern

/-! ## Lexemes -/

/-- A unit of a pattern. -/
inductive Lexeme where
  /-- A character on its own. -/
  | char (c : Char)
  /-- A backslash with the character behind it. -/
  | escape (c : Char)
  /-- A backslash with nothing behind it. -/
  | dangling
deriving DecidableEq, Repr

/-- Cuts a pattern into lexemes. -/
def lexemes : List Char → List Lexeme
  | [] => []
  | ['\\'] => [.dangling]
  | '\\' :: c :: rest => .escape c :: lexemes rest
  | c :: rest => .char c :: lexemes rest

namespace Lexeme

/-- The characters of a lexeme. -/
def text : Lexeme → List Char
  | .char c => [c]
  | .escape c => ['\\', c]
  | .dangling => ['\\']

/-- The number of characters of a lexeme. -/
def length (lexeme : Lexeme) : Nat :=
  lexeme.text.length

end Lexeme

/-! ## Flags -/

/-- The settings of a pattern. -/
structure Flags where
  ignoreCase : Bool := false
  multiline : Bool := false
  dotAll : Bool := false
  verbose : Bool := false
  ascii : Bool := false
  unicode : Bool := false
deriving DecidableEq, Repr

namespace Flags

/-- The setting with a given letter. -/
def ofLetter? : Char → Option Flags
  | 'i' => some { ignoreCase := true }
  | 'm' => some { multiline := true }
  | 's' => some { dotAll := true }
  | 'x' => some { verbose := true }
  | 'a' => some { ascii := true }
  | 'u' => some { unicode := true }
  | _ => none

/-- Whether a character is a letter for a setting, or the one for a locale. -/
def isLetter (c : Char) : Bool :=
  c == 'L' || (ofLetter? c).isSome

/-- All settings of two. -/
def union (a b : Flags) : Flags :=
  { ignoreCase := a.ignoreCase || b.ignoreCase
    multiline := a.multiline || b.multiline
    dotAll := a.dotAll || b.dotAll
    verbose := a.verbose || b.verbose
    ascii := a.ascii || b.ascii
    unicode := a.unicode || b.unicode }

/-- Whether two have a setting in common. -/
def overlaps (a b : Flags) : Bool :=
  (a.ignoreCase && b.ignoreCase) || (a.multiline && b.multiline) || (a.dotAll && b.dotAll)
    || (a.verbose && b.verbose) || (a.ascii && b.ascii) || (a.unicode && b.unicode)

/-- Whether the alphabet is set. -/
def setsAlphabet (flags : Flags) : Bool :=
  flags.ascii || flags.unicode

/-- Turns settings on and off.  Setting an alphabet replaces the one before. -/
def adjust (flags on off : Flags) : Flags :=
  let keepAlphabet := !on.setsAlphabet
  { ignoreCase := (flags.ignoreCase || on.ignoreCase) && !off.ignoreCase
    multiline := (flags.multiline || on.multiline) && !off.multiline
    dotAll := (flags.dotAll || on.dotAll) && !off.dotAll
    verbose := (flags.verbose || on.verbose) && !off.verbose
    ascii := (flags.ascii && keepAlphabet) || on.ascii
    unicode := (flags.unicode && keepAlphabet) || on.unicode }

/-- What counts as the same letter under the settings. -/
def caseMode (flags : Flags) : CaseMode :=
  { ignoreCase := flags.ignoreCase, ascii := flags.ascii }

end Flags

/-! ## The reader -/

/-- What a reader knows. -/
structure ReadState where
  /-- The lexemes ahead. -/
  rest : List Lexeme
  /-- The position of the first of them. -/
  pos : Nat
  /-- The settings in force. -/
  flags : Flags := {}
  /-- The names of groups. -/
  names : List (List Char × Nat) := []
  /-- The widths of the groups so far, in the order of their numbers; none for an open group. -/
  widths : List (Option Width) := []
  /-- Inside a look behind, the number of the first group that it may contain. -/
  lookBehind : Option Nat := none
  /-- The numbers of the groups that conditions ask for, with the places where they do. -/
  conditions : List (Nat × Nat) := []
  /-- Whether some look behind goes over texts of different lengths. -/
  variableLookBehind : Bool := false

/-- A step of reading. -/
abbrev Reader (α : Type) := StateT ReadState (Except ReadError) α

namespace Reader

/-- Fails at a position. -/
def failAt {α : Type} (cause : Cause) (pos : Nat) : Reader α :=
  throw (.faulty ⟨cause, some pos⟩)

/-- Fails a number of characters before the lexemes ahead. -/
def fail {α : Type} (cause : Cause) (offset : Nat) : Reader α := do
  failAt cause ((← get).pos - offset)

/-- The first lexeme ahead. -/
def peek? : Reader (Option Lexeme) := do
  return (← get).rest.head?

/-- Fails if a dangling backslash has come into view. -/
def checkView : Reader Unit := do
  let state ← get
  match state.rest with
  | .dangling :: _ => failAt .danglingEscape state.pos
  | _ => return

/-- Takes the first lexeme ahead. -/
def take? : Reader (Option Lexeme) := do
  let state ← get
  match state.rest with
  | [] => return none
  | lexeme :: rest =>
    set { state with rest, pos := state.pos + lexeme.length }
    checkView
    return some lexeme

/-- Takes the first lexeme ahead if it is a certain character. -/
def accept (c : Char) : Reader Bool := do
  match ← peek? with
  | some (.char d) =>
    if c = d then
      let _ ← take?
      return true
    else return false
  | _ => return false

/-- Takes characters as long as they satisfy a test, at most a number of them. -/
def takeChars (test : Char → Bool) : Nat → Reader (List Char)
  | 0 => return []
  | limit + 1 => do
    match ← peek? with
    | some (.char c) =>
      if test c then
        let _ ← take?
        return c :: (← takeChars test limit)
      else return []
    | _ => return []

/-- Takes all characters ahead that satisfy a test. -/
def takeAll (test : Char → Bool) : Reader (List Char) := do
  takeChars test (← get).rest.length

/-- Takes a name up to a terminator; `taken` is the name so far. -/
def takeName (terminator : Char) (what : String) : Nat → (taken : List Char) → Reader (List Char)
  | 0, taken => return taken
  | bound + 1, taken => do
    match ← take? with
    | none =>
      if taken.isEmpty then fail (.missingName what) 0
      else fail (.unterminatedName (String.ofList [terminator])) taken.length
    | some lexeme =>
      if lexeme = .char terminator then
        if taken.isEmpty then fail (.missingName what) 1 else return taken
      else takeName terminator what bound (taken ++ lexeme.text)

/-- Takes a name up to a terminator. -/
def name (terminator : Char) (what : String) : Reader (List Char) := do
  takeName terminator what ((← get).rest.length + 1) []

/-! ### Groups -/

/-- The number of the next group. -/
def nextGroup : Reader Nat := do
  return (← get).widths.length + 1

/-- Whether a name is an identifier: letters, digits and underscores, and no digit in front. -/
def isIdentifier : List Char → Bool
  | [] => false
  | c :: rest => (Text.isWordChar c && !Text.isDecimal c) && rest.all Text.isWordChar

/-- Fails unless a name that was just read, with its terminator, is an identifier. -/
def checkName (name : List Char) : Reader Unit := do
  if isIdentifier name then return
  else fail (.badGroupName (String.ofList name)) (name.length + 1)

/-- The width of a group that has been closed. -/
def closedWidth? (number : Nat) : Reader (Option Width) := do
  if number = 0 then return none else return ((← get).widths[number - 1]?).join

/-- Opens a group. -/
def openGroup (name : Option (List Char)) : Reader Nat := do
  let number ← nextGroup
  match name with
  | none => modify fun state => { state with widths := state.widths ++ [none] }
  | some name =>
    match (← get).names.lookup name with
    | some old =>
      fail (.duplicateGroup (String.ofList name) number old) (name.length + 1)
    | none =>
      modify fun state =>
        { state with widths := state.widths ++ [none], names := (name, number) :: state.names }
  return number

/-- The widths of all groups, for a node that refers only to closed ones. -/
def groupWidths : Reader (Nat → Width) := do
  let widths := (← get).widths
  return fun number => ((widths[number - 1]?).join).getD ⟨0, 0⟩

/-- Closes a group. -/
def closeGroup (number : Nat) (body : Node) : Reader Unit := do
  let width := body.width (← groupWidths)
  modify fun state => { state with widths := state.widths.set (number - 1) (some width) }

/-- Inside a look behind, fails for a group that is still open or that belongs to it. -/
def checkLookBehind (number : Nat) : Reader Unit := do
  match (← get).lookBehind with
  | none => return
  | some first =>
    if (← closedWidth? number).isNone then fail .openGroup 0
    if first ≤ number then fail .sameLookBehind 0

end Reader

/-! ## Escapes -/

/-- The characters that a backslash and a letter stand for, and the backslash itself. -/
def controlEscape? : Char → Option Nat
  | 'a' => some 7
  | 'b' => some 8
  | 'f' => some 12
  | 'n' => some 10
  | 'r' => some 13
  | 't' => some 9
  | 'v' => some 11
  | '\\' => some 92
  | _ => none

/-- The category that a backslash and a letter stand for. -/
def categoryEscape? : Char → Option SetItem
  | 'd' => some (.category .digit false)
  | 'D' => some (.category .digit true)
  | 's' => some (.category .space false)
  | 'S' => some (.category .space true)
  | 'w' => some (.category .word false)
  | 'W' => some (.category .word true)
  | _ => none

/-- Whether a character is a hexadecimal digit. -/
def isHexDigit (c : Char) : Bool :=
  c.isDigit || ('a' ≤ c && c ≤ 'f') || ('A' ≤ c && c ≤ 'F')

/-- Whether a character is an octal digit. -/
def isOctalDigit (c : Char) : Bool :=
  '0' ≤ c && c ≤ '7'

/-- The value of a digit in any base up to sixteen. -/
def digitOf (c : Char) : Nat :=
  if c.isDigit then c.toNat - '0'.toNat
  else if 'a' ≤ c && c ≤ 'f' then c.toNat - 'a'.toNat + 10
  else c.toNat - 'A'.toNat + 10

/-- The value of a row of digits. -/
def numberOf (base : Nat) (digits : List Char) : Nat :=
  digits.foldl (fun value c => value * base + digitOf c) 0

namespace Reader

/-- Reads the digits of a code, of which there has to be a certain number. -/
def codeOf (letter : Char) (count : Nat) : Reader Nat := do
  let digits ← takeChars isHexDigit count
  let text := '\\' :: letter :: digits
  if digits.length = count then
    let code := numberOf 16 digits
    if code ≤ 0x10ffff then return code
    else fail (.badEscape (String.ofList text)) text.length
  else fail (.incompleteEscape (String.ofList text)) text.length

/-- Reads the name of a character, and refuses it: no names are known here. -/
def namedCode : Reader Nat := do
  if ← accept '\x7b' then
    let charName ← name '\x7d' "character name"
    fail (.unknownCharacter (String.ofList charName)) (charName.length + 4)
  else fail .missingBrace 0

/-- Reads an octal code, given its digits. -/
def octalCode (digits : List Char) : Reader Nat := do
  let code := numberOf 8 digits
  if code ≤ 0o377 then return code
  else fail (.octalRange (String.ofList ('\\' :: digits))) (digits.length + 1)

/-- The code point of a character behind a backslash that stands for itself; letters do not. -/
def plainEscape (c : Char) : Reader Nat := do
  if c.isAlphanum then fail (.badEscape (String.ofList ['\\', c])) 2 else return c.toNat

/-- Reads an escape inside a set of characters. -/
def setEscape (c : Char) : Reader SetItem := do
  match controlEscape? c, categoryEscape? c with
  | some code, _ => return .code code
  | none, some item => return item
  | none, none =>
    match c with
    | 'x' => return .code (← codeOf c 2)
    | 'u' => return .code (← codeOf c 4)
    | 'U' => return .code (← codeOf c 8)
    | 'N' => return .code (← namedCode)
    | _ =>
      if isOctalDigit c then return .code (← octalCode (c :: (← takeChars isOctalDigit 2)))
      else return .code (← plainEscape c)

/-- A node for one code point. -/
def literal (code : Nat) : Reader Node := do
  return .char (.set (CharSet.single code) (← get).flags.caseMode)

/-- A node that refers to a group by its number; `length` characters of it have been read. -/
def reference (number length : Nat) : Reader Node := do
  if (← nextGroup) ≤ number then fail (.invalidReference number) (length - 1)
  else if (← closedWidth? number).isNone then fail .openGroup length
  else
    checkLookBehind number
    return .backref number (← get).flags.caseMode

/-- Reads a backslash and a digit other than zero: an octal code of three digits, or else a
reference to a group. -/
def digitEscape (c : Char) : Reader Node := do
  let second ← takeChars Char.isDigit 1
  match second with
  | [d] =>
    let third ← if isOctalDigit c && isOctalDigit d then takeChars isOctalDigit 1 else pure []
    match third with
    | [e] => literal (← octalCode [c, d, e])
    | _ => reference (numberOf 10 [c, d]) 3
  | _ => reference (numberOf 10 [c]) 2

/-- Reads an escape outside of sets. -/
def escape (c : Char) : Reader Node := do
  let flags := (← get).flags
  match c with
  | 'A' => return .anchor .textStart
  | 'Z' => return .anchor .textEnd
  | 'b' => return .anchor (.wordEdge flags.ascii)
  | 'B' => return .anchor (.notWordEdge flags.ascii)
  | 'x' => literal (← codeOf c 2)
  | 'u' => literal (← codeOf c 4)
  | 'U' => literal (← codeOf c 8)
  | 'N' => literal (← namedCode)
  | '0' => literal (numberOf 8 (← takeChars isOctalDigit 2))
  | _ =>
    match categoryEscape? c, controlEscape? c with
    | some item, _ => return .char (.set { negated := false, items := [item] } flags.caseMode)
    | none, some code => literal code
    | none, none => if c.isDigit then digitEscape c else literal (← plainEscape c)

/-! ## Sets of characters -/

/-- Reads one member of a set from its first lexeme. -/
def setItem (lexeme : Lexeme) : Reader SetItem :=
  match lexeme with
  | .escape c => setEscape c
  | .char c => return .code c.toNat
  | .dangling => return .code 92

/-- The range between two members. -/
def setRange (first last : Lexeme) (low high : SetItem) : Reader SetItem := do
  let bad : Reader SetItem :=
    fail (.badRange (String.ofList first.text) (String.ofList last.text))
      (first.length + 1 + last.length)
  match low, high with
  | .code low, .code high => if high < low then bad else return .range low high
  | _, _ => bad

/-- Reads the members of a set up to its closing bracket.  The set was opened at `start`, and
`latest` are the members so far, latest first.  A closing bracket in front of all members is one of
them. -/
def setItems (start : Nat) : Nat → (latest : List SetItem) → Reader (List SetItem)
  | 0, latest => return latest.reverse
  | bound + 1, latest => do
    match ← take? with
    | none => failAt .unterminatedSet start
    | some first =>
      if first = .char ']' ∧ latest ≠ [] then return latest.reverse
      else
        let low ← setItem first
        if ← accept '-' then
          match ← take? with
          | none => failAt .unterminatedSet start
          | some (.char ']') => return (.code '-'.toNat :: low :: latest).reverse
          | some last =>
            let high ← setItem last
            let range ← setRange first last low high
            setItems start bound (range :: latest)
        else setItems start bound (low :: latest)

/-- Reads a set behind its opening bracket. -/
def charSet : Reader Node := do
  let start := (← get).pos - 1
  let negated ← accept '^'
  let items ← setItems start ((← get).rest.length + 1) []
  return .char (.set { negated, items } (← get).flags.caseMode)

/-! ## Repetitions -/

/-- The number from which on a number of repetitions is refused. -/
def repetitionLimit : Nat := 4294967295

/-- How often something is to be repeated. -/
structure Times where
  least : Nat
  most : Option Nat

/-- The number written by digits, if there are any. -/
def boundOf (digits : List Char) : Reader (Option Nat) := do
  if digits.isEmpty then return none
  else
    let value := numberOf 10 digits
    if repetitionLimit ≤ value then throw .tooManyRepetitions else return some value

/-- Reads the numbers in braces, behind the opening one.  What is no repetition leaves the brace as
an ordinary character, and the reader behind it. -/
def bracedTimes : Reader (Option Times) := do
  let start ← get
  if (← peek?) = some (.char '\x7d') then return none
  else
    let low ← takeAll Char.isDigit
    let high ← if ← accept ',' then takeAll Char.isDigit else pure low
    if ← accept '\x7d' then
      let least ← boundOf low
      let most ← boundOf high
      if most.any (decide <| · < least.getD 0) then failAt .leastAboveMost start.pos
      else return some ⟨least.getD 0, most⟩
    else
      set start
      return none

/-- Reads how often to repeat from the character that says so. -/
def times (c : Char) : Reader (Option Times) :=
  match c with
  | '?' => return some ⟨0, some 1⟩
  | '*' => return some ⟨0, none⟩
  | '+' => return some ⟨1, none⟩
  | _ => bracedTimes

/-- Reads the greed of a repetition. -/
def greed : Reader Greed := do
  if ← accept '?' then return .lazy
  else if ← accept '+' then return .possessive
  else return .greedy

/-- A piece of a sequence: a node, and whether it came from a pair of brackets.  A bracketed node
can be repeated whatever it is. -/
structure Piece where
  node : Node
  bracketed : Bool := false

/-- Repeats the latest piece. -/
def repeated (start : Nat) (times : Times) (latest : List Piece) : Reader (List Piece) := do
  match latest with
  | [] => failAt .nothingToRepeat start
  | piece :: more =>
    match piece.bracketed, piece.node with
    | false, .anchor _ => failAt .nothingToRepeat start
    | false, .rep _ _ _ _ => failAt .multipleRepeat start
    | _, _ => return ⟨.rep (← greed) times.least times.most piece.node, false⟩ :: more

/-! ## Flags -/

/-- Reads the letters of settings to turn on, from the first one; the result ends with the character
behind them. -/
def flagsOn : Nat → Char → (on : Flags) → Reader (Flags × Char)
  | 0, c, on => return (on, c)
  | bound + 1, c, on => do
    if c = 'L' then fail .localeFlag 0
    let flag := (Flags.ofLetter? c).getD {}
    let on := on.union flag
    if flag.setsAlphabet && on.ascii && on.unicode then fail .incompatibleFlags 0
    match ← take? with
    | none => fail (.missingFlagEnd "-, : or )") 0
    | some (.char next) =>
      if next = ')' ∨ next = '-' ∨ next = ':' then return (on, next)
      else if Flags.isLetter next then flagsOn bound next on
      else if Text.isAlphanumeric next && !Text.isDecimal next then fail .unknownFlag 1
      else fail (.missingFlagEnd "-, : or )") 1
    | some lexeme => fail (.missingFlagEnd "-, : or )") lexeme.length

/-- Reads the letters of settings to turn off, from the first one, with the colon behind them. -/
def flagsOff : Nat → Char → (off : Flags) → Reader Flags
  | 0, _, off => return off
  | bound + 1, c, off => do
    let flag := (Flags.ofLetter? c).getD {}
    if c = 'L' || flag.setsAlphabet then fail .permanentFlag 0
    let off := off.union flag
    match ← take? with
    | none => fail (.missingFlagEnd ":") 0
    | some (.char next) =>
      if next = ':' then return off
      else if Flags.isLetter next then flagsOff bound next off
      else if Text.isAlphanumeric next && !Text.isDecimal next then fail .unknownFlag 1
      else fail (.missingFlagEnd ":") 1
    | some lexeme => fail (.missingFlagEnd ":") lexeme.length

/-- Reads settings behind a bracket and a question mark, from their first character.  The result is
`none` for settings of the whole pattern, which take effect at once, and the settings to turn on and
off for those of a group. -/
def flags (c : Char) : Reader (Option (Flags × Flags)) := do
  let bound := (← get).rest.length + 2
  let (on, last) ← if c = '-' then pure (({} : Flags), '-') else flagsOn bound c {}
  match last with
  | ')' =>
    modify fun state => { state with flags := state.flags.union on }
    return none
  | '-' =>
    match ← take? with
    | none => fail (.missingFlagEnd "flag") 0
    | some (.char first) =>
      if Flags.isLetter first then
        let off ← flagsOff bound first {}
        if on.overlaps off then fail .contradictoryFlags 1
        return some (on, off)
      else if Text.isAlphanumeric first && !Text.isDecimal first then fail .unknownFlag 1
      else fail (.missingFlagEnd "flag") 1
    | some lexeme => fail (.missingFlagEnd "flag") lexeme.length
  | _ => return some (on, {})

/-! ## Groups -/

/-- What an opening bracket begins. -/
inductive Opening where
  /-- A group whose text is remembered, perhaps under a name. -/
  | capture (name : Option (List Char))
  /-- A group whose text is not remembered, with settings to turn on and off. -/
  | plain (on off : Flags)
  /-- A group that matches in one way only. -/
  | atomic
  /-- A look ahead or behind. -/
  | look (ahead positive : Bool)
  /-- A choice that depends on a group. -/
  | condition (number : Nat)
  /-- Something that is already complete; a comment or settings leave nothing behind. -/
  | done (node : Option Node)

/-- Skips a comment that started at `start`. -/
def comment (start : Nat) : Nat → Reader Unit
  | 0 => return
  | bound + 1 => do
    match ← peek? with
    | none => failAt .unterminatedComment start
    | some _ =>
      if (← take?) = some (.char ')') then return else comment start bound

/-- Reads a reference to a group by its name. -/
def namedReference : Reader Node := do
  let groupName ← name ')' "group name"
  checkName groupName
  match (← get).names.lookup groupName with
  | none => fail (.unknownGroup (String.ofList groupName)) (groupName.length + 1)
  | some number =>
    if (← closedWidth? number).isNone then fail .openGroup (groupName.length + 1)
    checkLookBehind number
    return .backref number (← get).flags.caseMode

/-- Reads what a condition asks for: a group, by its name or by its number. -/
def conditionGroup : Reader Nat := do
  let groupName ← name ')' "group name"
  let length := groupName.length + 1
  let number ←
    if isIdentifier groupName then
      match (← get).names.lookup groupName with
      | some number => pure number
      | none => fail (.unknownGroup (String.ofList groupName)) length
    else
      match Text.integer? groupName with
      | none => fail (.badGroupName (String.ofList groupName)) length
      | some value =>
        if value < 0 then fail (.badGroupName (String.ofList groupName)) length
        else if value = 0 then fail .badGroupNumber length
        else
          let asked := (value.toNat, (← get).pos - length)
          modify fun state => { state with conditions := state.conditions ++ [asked] }
          pure value.toNat
  checkLookBehind number
  return number

/-- Reads what stands behind a bracket, a question mark and the letter `P`. -/
def namedOpening : Reader Opening := do
  if ← accept '<' then
    let groupName ← name '>' "group name"
    checkName groupName
    return .capture (some groupName)
  else if ← accept '=' then return .done (some (← namedReference))
  else
    match ← take? with
    | none => fail .unexpectedEnd 0
    | some lexeme =>
      fail (.unknownExtension (String.ofList ('P' :: lexeme.text))) (lexeme.length + 2)

/-- Reads which look behind stands behind a bracket, a question mark and a less-than sign. -/
def behindOpening : Reader Opening := do
  match ← take? with
  | none => fail .unexpectedEnd 0
  | some (.char '=') => return .look false true
  | some (.char '!') => return .look false false
  | some lexeme =>
    fail (.unknownExtension (String.ofList ('<' :: lexeme.text))) (lexeme.length + 2)

/-- Reads settings.  Those of the whole pattern have to stand at its beginning. -/
def flagsOpening (start : Nat) (atStart : Bool) (c : Char) : Reader Opening := do
  match ← flags c with
  | some (on, off) => return .plain on off
  | none => if atStart then return .done none else failAt .lateFlags start

/-- Reads what an opening bracket at `start` begins. -/
def opening (start : Nat) (atStart : Bool) : Reader Opening := do
  if ← accept '?' then
    match ← take? with
    | none => fail .unexpectedEnd 0
    | some (.char 'P') => namedOpening
    | some (.char ':') => return .plain {} {}
    | some (.char '#') =>
      comment start ((← get).rest.length + 1)
      return .done none
    | some (.char '=') => return .look true true
    | some (.char '!') => return .look true false
    | some (.char '<') => behindOpening
    | some (.char '(') => return .condition (← conditionGroup)
    | some (.char '>') => return .atomic
    | some lexeme =>
      match lexeme with
      | .char c =>
        if Flags.isLetter c || c == '-' then flagsOpening start atStart c
        else fail (.unknownExtension (String.ofList [c])) 2
      | _ => fail (.unknownExtension (String.ofList lexeme.text)) (lexeme.length + 1)
  else return .capture none

/-- Takes the bracket that closes what was opened at `start`. -/
def closing (start : Nat) : Reader Unit := do
  if ← accept ')' then return else failAt .unterminatedGroup start

/-! ## Sequences and alternatives -/

/-- In verbose patterns, skips the rest of a line. -/
def skipLine : Nat → Reader Unit
  | 0 => return
  | bound + 1 => do
    match ← take? with
    | none => return
    | some (.char '\n') => return
    | some _ => skipLine bound

/-- Completes a look behind over a body. -/
def lookBehind (positive : Bool) (body : Node) : Reader Node := do
  let width := body.width (← groupWidths)
  if width.least ≠ width.most then
    modify fun state => { state with variableLookBehind := true }
  return .behind positive width.least body

/-- The nodes of pieces that are held latest first. -/
def inOrder (latest : List Piece) : Node :=
  Node.sequence (latest.reverse.map Piece.node)

mutual

/-- Reads alternatives.  `top` says whether they are those of the whole pattern. -/
def readChoice : Nat → (top : Bool) → (earlier : List Node) → Reader Node
  | 0, _, earlier => return Node.choice earlier
  | bound + 1, top, earlier => do
    let node ← readSequence bound (top && earlier.isEmpty) []
    if ← accept '|' then readChoice bound top (earlier ++ [node])
    else return Node.choice (earlier ++ [node])

/-- Reads a sequence up to a bar, a closing bracket or the end.  `top` says whether it is the one
that the pattern begins with, and `latest` holds its pieces so far, latest first. -/
def readSequence : Nat → (top : Bool) → (latest : List Piece) → Reader Node
  | 0, _, latest => return inOrder latest
  | bound + 1, top, latest => do
    match ← peek? with
    | none => return inOrder latest
    | some (.char '|') => return inOrder latest
    | some (.char ')') => return inOrder latest
    | some lexeme =>
      let _ ← take?
      let state ← get
      match lexeme with
      | .dangling => return inOrder latest
      | .escape c => readSequence bound top (⟨← escape c, false⟩ :: latest)
      | .char c =>
        if state.flags.verbose && Text.isPlainSpace c then readSequence bound top latest
        else if state.flags.verbose && c == '#' then
          skipLine (state.rest.length + 1)
          readSequence bound top latest
        else
          match c with
          | '[' => readSequence bound top (⟨← charSet, false⟩ :: latest)
          | '.' => readSequence bound top (⟨.char (.any state.flags.dotAll), false⟩ :: latest)
          | '^' =>
            let anchor := if state.flags.multiline then Anchor.lineStart else .textStart
            readSequence bound top (⟨.anchor anchor, false⟩ :: latest)
          | '$' =>
            let anchor := if state.flags.multiline then Anchor.lineEnd else .lastLineEnd
            readSequence bound top (⟨.anchor anchor, false⟩ :: latest)
          | '(' => readBracket bound top latest (state.pos - 1)
          | _ =>
            if c == '?' || c == '*' || c == '+' || c == '\x7b' then
              match ← times c with
              | some times =>
                readSequence bound top (← repeated (state.pos - 1) times latest)
              | none => readSequence bound top (⟨← literal c.toNat, false⟩ :: latest)
            else readSequence bound top (⟨← literal c.toNat, false⟩ :: latest)

/-- Reads on behind an opening bracket at `start`. -/
def readBracket : Nat → (top : Bool) → (latest : List Piece) → (start : Nat) → Reader Node
  | 0, _, latest, _ => return inOrder latest
  | bound + 1, top, latest, start => do
    match ← opening start (top && latest.isEmpty) with
    | .done none => readSequence bound top latest
    | .done (some node) => readSequence bound top (⟨node, true⟩ :: latest)
    | .capture groupName =>
      let number ← openGroup groupName
      let body ← readChoice bound false []
      closing start
      closeGroup number body
      readSequence bound top (⟨.group number body, true⟩ :: latest)
    | .plain on off =>
      let outer := (← get).flags
      modify fun state => { state with flags := state.flags.adjust on off }
      let body ← readChoice bound false []
      closing start
      modify fun state => { state with flags := outer }
      readSequence bound top (⟨body, true⟩ :: latest)
    | .atomic =>
      let body ← readChoice bound false []
      closing start
      readSequence bound top (⟨.atomic body, true⟩ :: latest)
    | .look true positive =>
      let body ← readChoice bound false []
      closing start
      readSequence bound top (⟨.ahead positive body, true⟩ :: latest)
    | .look false positive =>
      let outer := (← get).lookBehind
      let first ← nextGroup
      modify fun state => { state with lookBehind := outer.getD first }
      let body ← readChoice bound false []
      modify fun state => { state with lookBehind := outer }
      closing start
      readSequence bound top (⟨← lookBehind positive body, true⟩ :: latest)
    | .condition number =>
      let yes ← readSequence bound false []
      let no ← if ← accept '|' then readSequence bound false [] else pure .empty
      if (← peek?) = some (.char '|') then fail .tooManyBranches 0
      closing start
      readSequence bound top (⟨.ifGroup number yes no, true⟩ :: latest)

end

/-- Fails for the first condition that asks for a group that does not exist. -/
def checkConditions : Reader Unit := do
  let next ← nextGroup
  match (← get).conditions.find? fun (number, _) => decide (next ≤ number) with
  | some (number, pos) => failAt (.invalidReference number) pos
  | none => return

/-- Reads a whole pattern. -/
def whole : Reader Node := do
  checkView
  let node ← readChoice (4 * (← get).rest.length + 4) true []
  let flags := (← get).flags
  if flags.ascii && flags.unicode then throw .incompatibleSettings
  if (← peek?).isSome then fail .unbalanced 0
  checkConditions
  if (← get).variableLookBehind then throw (.faulty ⟨.variableLookBehind, none⟩)
  return node

end Reader

/-- Reads a pattern. -/
def Node.ofText (text : List Char) : Except ReadError Node :=
  match Reader.whole.run { rest := lexemes text, pos := 0 } with
  | .error e => .error e
  | .ok (node, _) => .ok node

end TapeLang.Pattern
