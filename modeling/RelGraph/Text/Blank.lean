/-! Blank text. A character is blank when it has the Unicode property `White_Space`, and a text is
blank when every character of it is; so is the empty text. Identifiers and names must not be
blank. -/

namespace RelGraph.Text

/-- The twenty-five characters with the property `White_Space`. -/
def isBlankChar (c : Char) : Bool :=
  ('\u0009' ≤ c && c ≤ '\u000d') || c == ' ' || c == '\u0085' || c == '\u00a0' || c == '\u1680'
    || ('\u2000' ≤ c && c ≤ '\u200a') || c == '\u2028' || c == '\u2029' || c == '\u202f'
    || c == '\u205f' || c == '\u3000'

def isBlank (text : String) : Bool := text.toList.all isBlankChar

/-- Drops blanks from both ends. -/
def trim (text : String) : String :=
  String.ofList (((text.toList.dropWhile isBlankChar).reverse.dropWhile isBlankChar).reverse)

end RelGraph.Text
