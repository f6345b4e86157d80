/-!
# Text in columns

Widths count characters.  A text that is already wide enough is never cut.
-/

namespace TapeLang.Text

/-- As many blanks as asked for; none when the number is negative. -/
def blanks (count : Int) : String :=
  String.ofList (List.replicate count.toNat ' ')

/-- Puts blanks in front of a text until it has the given width. -/
def padLeft (width : Nat) (text : String) : String :=
  blanks (width - text.length) ++ text

/-- Puts blanks behind a text until it has the given width. -/
def padRight (width : Nat) (text : String) : String :=
  text ++ blanks (width - text.length)

end TapeLang.Text
