/-!
# White space

Two notions of white space are in use, and they differ in four control characters.

* `isSpace` is white space in the sense of Unicode, with the four information separators.  It is
  what is stripped from both ends of a text.
* `isNumberSpace` is what may stand around the digits of a number.  It has the usual ASCII blanks
  and the white space beyond ASCII, and not the information separators.
-/

namespace TapeLang.Text

/-- White space beyond ASCII. -/
def isWideSpace (c : Char) : Bool :=
  let code := c.toNat
  code == 0x85 || code == 0xa0 || code == 0x1680 || (decide (0x2000 ≤ code) && decide (code ≤ 0x200a))
    || code == 0x2028 || code == 0x2029 || code == 0x202f || code == 0x205f || code == 0x3000

/-- The blank and the controls from tab to carriage return. -/
def isPlainSpace (c : Char) : Bool :=
  c == ' ' || (decide (9 ≤ c.toNat) && decide (c.toNat ≤ 13))

/-- The control characters that separate files, groups, records and units. -/
def isSeparator (c : Char) : Bool :=
  decide (28 ≤ c.toNat) && decide (c.toNat ≤ 31)

/-- White space. -/
def isSpace (c : Char) : Bool :=
  isPlainSpace c || isSeparator c || isWideSpace c

/-- White space that may surround a number. -/
def isNumberSpace (c : Char) : Bool :=
  isPlainSpace c || isWideSpace c

/-- Drops what satisfies a test from both ends of a text. -/
def trim (drop : Char → Bool) (text : List Char) : List Char :=
  ((text.dropWhile drop).reverse.dropWhile drop).reverse

/-- Strips white space from both ends of a text. -/
def strip (text : List Char) : List Char :=
  trim isSpace text

end TapeLang.Text
