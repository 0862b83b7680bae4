/-!
# Why JSON text could not be read

A reading error is a cause and the place where the reader stood: a 1-based line and a column
counted in bytes from the start of that line. Errors of a typed reading (a value of the wrong
type, an unknown or repeated field, a value the target refuses) carry their own text.

Results:
* `JsonError.message`: the cause, then ` at line L column C` when a place is known.
-/

namespace FormulaShader

/-- The causes a JSON reading reports. -/
inductive JsonErrorCode where
  | eofWhileParsingList
  | eofWhileParsingObject
  | eofWhileParsingString
  | eofWhileParsingValue
  | expectedColon
  | expectedListCommaOrEnd
  | expectedObjectCommaOrEnd
  | expectedSomeIdent
  | expectedSomeValue
  | invalidEscape
  | invalidNumber
  | numberOutOfRange
  | controlCharacterWhileParsingString
  | keyMustBeAString
  | loneLeadingSurrogateInHexEscape
  | trailingComma
  | trailingCharacters
  | unexpectedEndOfHexEscape
  | recursionLimitExceeded
  | custom (text : String)
  deriving Repr, DecidableEq

def JsonErrorCode.text : JsonErrorCode → String
  | .eofWhileParsingList => "EOF while parsing a list"
  | .eofWhileParsingObject => "EOF while parsing an object"
  | .eofWhileParsingString => "EOF while parsing a string"
  | .eofWhileParsingValue => "EOF while parsing a value"
  | .expectedColon => "expected `:`"
  | .expectedListCommaOrEnd => "expected `,` or `]`"
  | .expectedObjectCommaOrEnd => "expected `,` or `\x7d`"
  | .expectedSomeIdent => "expected ident"
  | .expectedSomeValue => "expected value"
  | .invalidEscape => "invalid escape"
  | .invalidNumber => "invalid number"
  | .numberOutOfRange => "number out of range"
  | .controlCharacterWhileParsingString =>
    "control character (\\u0000-\\u001F) found while parsing a string"
  | .keyMustBeAString => "key must be a string"
  | .loneLeadingSurrogateInHexEscape => "lone leading surrogate in hex escape"
  | .trailingComma => "trailing comma"
  | .trailingCharacters => "trailing characters"
  | .unexpectedEndOfHexEscape => "unexpected end of hex escape"
  | .recursionLimitExceeded => "recursion limit exceeded"
  | .custom text => text

/-- A line and a byte column in JSON text. -/
structure TextPosition where
  line : Nat
  column : Nat
  deriving Repr, DecidableEq

/-- A reading error: its cause and, once known, its place. -/
structure JsonError where
  code : JsonErrorCode
  position : Option TextPosition
  deriving Repr, DecidableEq

namespace JsonError

/-- The error's text, with its place when known. -/
def message (e : JsonError) : String :=
  match e.position with
  | some p => e.code.text ++ " at line " ++ toString p.line ++ " column " ++ toString p.column
  | none => e.code.text

/-- Gives a place to an error that has none yet. -/
def placeAt (e : JsonError) (p : TextPosition) : JsonError :=
  match e.position with
  | some _ => e
  | none => { e with position := some p }

end JsonError

end FormulaShader
