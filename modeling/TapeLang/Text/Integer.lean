import TapeLang.Text.Digit
import TapeLang.Text.Space

/-!
# Integers in text

An integer is written with an optional sign and at least one decimal digit, of any script.  Single
underscores may stand between two digits, and white space around the whole.
-/

namespace TapeLang.Text

/-- Reads the digits that follow a digit, with the value so far. -/
def digitsAfter (value : Nat) : List Char → Option Nat
  | [] => some value
  | '_' :: c :: rest =>
    match digitValue? c with
    | some digit => digitsAfter (value * 10 + digit) rest
    | none => none
  | c :: rest =>
    match digitValue? c with
    | some digit => digitsAfter (value * 10 + digit) rest
    | none => none

/-- Reads a number without a sign. -/
def digits? : List Char → Option Nat
  | [] => none
  | c :: rest =>
    match digitValue? c with
    | some digit => digitsAfter digit rest
    | none => none

/-- Reads a number with an optional sign. -/
def signed? : List Char → Option Int
  | '+' :: rest => (digits? rest).map Int.ofNat
  | '-' :: rest => (digits? rest).map fun value => -Int.ofNat value
  | text => (digits? text).map Int.ofNat

/-- Reads an integer. -/
def integer? (text : List Char) : Option Int :=
  signed? (trim isNumberSpace text)

end TapeLang.Text
