import PolicyAudit.Text.Printable

/-! # Quoted text

Messages show a text that came from outside in double quotes, and a single character in single
quotes.  The enclosing quote and the backslash are preceded by a backslash; tab, line feed,
carriage return and the null character have short escapes; every other character that does not
show as itself is written as its code point in lower-case hexadecimal between braces. -/

namespace PolicyAudit.Text

/-- A number in lower-case hexadecimal, without leading zeros. -/
def hexText (n : Nat) : String := String.ofList (Nat.toDigits 16 n)

/-- The characters that stand for `c` between two marks `mark`. -/
def escapeChar (mark c : Char) : String :=
  if c = '\x00' then "\\0"
  else if c = '\t' then "\\t"
  else if c = '\r' then "\\r"
  else if c = '\n' then "\\n"
  else if c = '\\' then "\\\\"
  else if c = mark then "\\" ++ mark.toString
  else if showsAsItself c then c.toString
  else "\\u\x7b" ++ hexText c.toNat ++ "\x7d"

/-- A text in double quotes. -/
def quoted (s : String) : String :=
  "\"" ++ String.join (s.toList.map (escapeChar '"')) ++ "\""

/-- A character in single quotes. -/
def quotedChar (c : Char) : String :=
  "'" ++ escapeChar '\'' c ++ "'"

end PolicyAudit.Text
