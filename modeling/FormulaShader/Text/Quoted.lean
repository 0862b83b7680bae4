import FormulaShader.Text.Printable
import FormulaShader.Text.GraphemeExtend

/-!
# Quoted text for structural dumps

A dump writes a string between double quotes so that it can be read back unambiguously:
the null character, tab, carriage return and line feed get their short escapes, a backslash
and a double quote are escaped with a backslash, and a character that is not printable or
that would attach itself to the previous character (a grapheme extender) is written as its
code point `\u{hex}`. Every other character stands for itself.

Results:
* `quoteForDump`: the quoted form of a string.
-/

namespace FormulaShader

/-- The code point escape `\u{hex}` of a character, in lower-case hexadecimal. -/
def codePointEscape (c : Char) : String :=
  "\\u\x7b" ++ String.ofList (Nat.toDigits 16 c.toNat) ++ "\x7d"

def dumpEscapeChar (c : Char) : String :=
  if c = '\x00' then "\\0"
  else if c = '\t' then "\\t"
  else if c = '\r' then "\\r"
  else if c = '\n' then "\\n"
  else if c = '\\' then "\\\\"
  else if c = '"' then "\\\""
  else if isGraphemeExtend c || !isPrintable c then codePointEscape c
  else String.singleton c

/-- A string between double quotes, escaped for a dump. -/
def quoteForDump (s : String) : String :=
  "\"" ++ String.join (s.toList.map dumpEscapeChar) ++ "\""

end FormulaShader
