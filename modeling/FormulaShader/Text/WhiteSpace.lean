/-!
# White space

The characters with the Unicode property White_Space: the ASCII controls from tab to carriage
return, space, next line, no-break space, ogham space mark, the spaces from en quad to hair
space, the line and paragraph separators, narrow no-break space, medium mathematical space
and ideographic space.

Results:
* `isWhiteSpace`: the property as a test on a character.
* `trimWhiteSpace`: a character list without white space at either end.
-/

namespace FormulaShader

/-- Whether a character has the Unicode property White_Space. -/
def isWhiteSpace (c : Char) : Bool :=
  let n := c.toNat
  (0x9 ≤ n && n ≤ 0xD) || n == 0x20 || n == 0x85 || n == 0xA0 || n == 0x1680 ||
    (0x2000 ≤ n && n ≤ 0x200A) || n == 0x2028 || n == 0x2029 || n == 0x202F ||
    n == 0x205F || n == 0x3000

/-- The characters without white space at either end. -/
def trimWhiteSpace (cs : List Char) : List Char :=
  ((cs.dropWhile isWhiteSpace).reverse.dropWhile isWhiteSpace).reverse

end FormulaShader
