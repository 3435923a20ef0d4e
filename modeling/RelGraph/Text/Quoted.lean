import RelGraph.Unicode.Additions

/-! Quoted texts for developers. A text stands between quotes, and every character that cannot be
seen by itself is escaped, so that different texts never look alike. -/

namespace RelGraph.Text

/-- The categories whose characters leave no mark of their own. -/
def invisibleCategories : List String := ["Cc", "Cf", "Cs", "Co", "Cn", "Zl", "Zp", "Zs"]

/-- The letters that fill a place and show nothing. -/
def isFiller (c : Char) : Bool :=
  c == '\u115f' || c == '\u1160' || c == '\u3164' || c == '\uffa0'

/-- A mark that changes the look of the character before it. The two sound marks of halfwidth
Katakana take a place of their own. -/
def isAttached (c : Char) : Bool :=
  Unicode.isGraphemeExtend c && c != '\uff9e' && c != '\uff9f'

/-- A character that can be seen by itself, or the plain space. -/
def isVisible (c : Char) : Bool :=
  c == ' ' ||
    (!invisibleCategories.contains (Unicode.latestCategory c) && !isFiller c && !isAttached c)

/-- The hexadecimal digits of a number, without leading zeros. -/
def hexText (n : Nat) : String := String.ofList (Nat.toDigits 16 n)

/-- How a character is written between the quotes. -/
def escapeVisibly (c : Char) : String :=
  if c == '\x00' then "\\0"
  else if c == '\t' then "\\t"
  else if c == '\n' then "\\n"
  else if c == '\r' then "\\r"
  else if c == '"' then "\\\""
  else if c == '\\' then "\\\\"
  else if isVisible c then c.toString
  else "\\u\x7b" ++ hexText c.toNat ++ "\x7d"

def quoteVisibly (s : String) : String :=
  "\"" ++ String.join (s.toList.map escapeVisibly) ++ "\""

end RelGraph.Text
