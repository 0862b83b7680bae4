import FormulaShader.Json.Error
import FormulaShader.Text.Utf8

/-!
# Reading JSON text one character at a time

A `Cursor` is the text still to read together with the place reached. A `JsonRead` step
reads from a cursor and either moves it or stops with a `JsonError`.

Two places matter for an error. The *current* place is just after what has been read. The
*next* place is one byte further, where an error about the character not yet taken is
reported; at the end of the text the two coincide. A byte column is the count of UTF-8
bytes since the last line feed.

Results:
* `JsonRead.skipBlank`: blanks are space, tab, line feed and carriage return.
* `JsonRead.string`: the body of a string literal after its opening quote, escapes decoded
  and surrogate pairs joined; a lone surrogate, a bad escape, a raw control character or
  the end of the text is an error.
* `JsonRead.word`: the rest of `null`, `true` or `false`.
-/

namespace FormulaShader

/-- The text still to read and the place reached. -/
structure Cursor where
  rest : List Char
  line : Nat
  column : Nat
  deriving Repr, Inhabited

namespace Cursor

def start (s : String) : Cursor := ⟨s.toList, 1, 0⟩

def here (c : Cursor) : TextPosition := ⟨c.line, c.column⟩

/-- The place one byte further: past a line feed it is the start of the next line. -/
def next (c : Cursor) : TextPosition :=
  match c.rest with
  | [] => ⟨c.line, c.column⟩
  | ch :: _ => if ch = '\n' then ⟨c.line + 1, 0⟩ else ⟨c.line, c.column + 1⟩

def advance (c : Cursor) : Cursor :=
  match c.rest with
  | [] => c
  | ch :: rest =>
    if ch = '\n' then ⟨rest, c.line + 1, 0⟩ else ⟨rest, c.line, c.column + ch.utf8Size⟩

def bytesLeft (c : Cursor) : Nat := utf8Length c.rest

/-- The place `n` bytes past line `line`, column `column`, over the characters `cs`, counted
in bytes even where that ends inside a character. -/
def placeOver : List Char → Nat → Nat → Nat → TextPosition
  | [], line, column, _ => ⟨line, column⟩
  | _, line, column, 0 => ⟨line, column⟩
  | ch :: rest, line, column, n + 1 =>
    if ch = '\n' then placeOver rest (line + 1) 0 n
    else if ch.utf8Size ≤ n + 1 then placeOver rest line (column + ch.utf8Size) (n + 1 - ch.utf8Size)
    else ⟨line, column + n + 1⟩

def placeAfter (c : Cursor) (n : Nat) : TextPosition := placeOver c.rest c.line c.column n

def placeAtEnd (c : Cursor) : TextPosition := c.placeAfter c.bytesLeft

end Cursor

/-- A reading step over JSON text. A failed step keeps the cursor where it stopped, so that
a reader can go on from there to settle where an error is reported. -/
abbrev JsonRead := ExceptT JsonError (StateM Cursor)

def JsonRead.runOn {α : Type} (x : JsonRead α) (s : String) : Except JsonError α :=
  (x.run.run (Cursor.start s)).1

namespace JsonRead

def failAt {α : Type} (code : JsonErrorCode) (p : TextPosition) : JsonRead α :=
  throw ⟨code, some p⟩

def failHere {α : Type} (code : JsonErrorCode) : JsonRead α := do
  failAt code (← get).here

def failNext {α : Type} (code : JsonErrorCode) : JsonRead α := do
  failAt code (← get).next

def peek? : JsonRead (Option Char) := do
  return (← get).rest.head?

def bump : JsonRead Unit := modify Cursor.advance

def take? : JsonRead (Option Char) := do
  let c ← peek?
  bump
  return c

def isBlank (c : Char) : Bool := c = ' ' || c = '\n' || c = '\t' || c = '\r'

/-- Skips blanks; returns the next character, not taken. -/
def skipBlank : JsonRead (Option Char) := do
  modify fun c =>
    let rest := c.rest
    let blanks := rest.takeWhile isBlank
    blanks.foldl (fun c _ => c.advance) c
  peek?

/-- Takes the expected characters of a word; the end of the text or another character is
an error. -/
def word : List Char → JsonRead Unit
  | [] => pure ()
  | w :: ws => do
    match ← peek? with
    | none => failHere .eofWhileParsingValue
    | some ch =>
      if ch = w then do bump; word ws
      else failNext .expectedSomeIdent

def hexValue? (c : Char) : Option Nat :=
  if '0' ≤ c ∧ c ≤ '9' then some (c.toNat - '0'.toNat)
  else if 'a' ≤ c ∧ c ≤ 'f' then some (c.toNat - 'a'.toNat + 10)
  else if 'A' ≤ c ∧ c ≤ 'F' then some (c.toNat - 'A'.toNat + 10)
  else none

/-- Reads the four hexadecimal digits of a `\u` escape. Fewer than four bytes left is the
end of the string, reported at the end of the text; four bytes that are not all hexadecimal
digits are a bad escape, reported just past them. -/
def hexEscape : JsonRead Nat := do
  let c ← get
  if c.bytesLeft < 4 then failAt .eofWhileParsingString c.placeAtEnd
  else
    match (c.rest.take 4).mapM hexValue? with
    | some [a, b, d, e] =>
      set { c with rest := c.rest.drop 4, column := c.column + 4 }
      pure (((a * 16 + b) * 16 + d) * 16 + e)
    | _ => failAt .invalidEscape (c.placeAfter 4)

def isLeading (n : Nat) : Bool := 0xD800 ≤ n && n ≤ 0xDBFF

def isTrailing (n : Nat) : Bool := 0xDC00 ≤ n && n ≤ 0xDFFF

/-- Reads the rest of a `\u` escape after the `u`: one code, or a leading surrogate joined
with the trailing one of a second `\u` escape. -/
def unicodeEscape : JsonRead Char := do
  let n ← hexEscape
  if isTrailing n then failHere .loneLeadingSurrogateInHexEscape
  else if !isLeading n then pure (Char.ofNat n)
  else
    match ← peek? with
    | none => failHere .eofWhileParsingString
    | some '\\' =>
      bump
      match ← peek? with
      | none => failHere .eofWhileParsingString
      | some 'u' =>
        bump
        let n2 ← hexEscape
        if !isTrailing n2 then failHere .loneLeadingSurrogateInHexEscape
        else pure (Char.ofNat (((n - 0xD800) * 0x400 + (n2 - 0xDC00)) + 0x10000))
      | some _ => failNext .unexpectedEndOfHexEscape
    | some _ => failNext .unexpectedEndOfHexEscape

def escapeChar? : Char → Option Char
  | '"' => some '"'
  | '\\' => some '\\'
  | '/' => some '/'
  | 'b' => some (Char.ofNat 8)
  | 'f' => some (Char.ofNat 12)
  | 'n' => some '\n'
  | 'r' => some '\r'
  | 't' => some '\t'
  | _ => none

/-- Reads the character after a backslash; a letter that is no escape is reported one byte
past the backslash. -/
def escape : JsonRead Char := do
  match ← peek? with
  | none => failHere .eofWhileParsingString
  | some 'u' => bump; unicodeEscape
  | some ch =>
    match escapeChar? ch with
    | some e => bump; pure e
    | none => failNext .invalidEscape

def stringBody : Nat → List Char → JsonRead String
  | 0, acc => pure (String.ofList acc.reverse)
  | fuel + 1, acc => do
    match ← peek? with
    | none => failHere .eofWhileParsingString
    | some ch =>
      if ch = '"' then do bump; pure (String.ofList acc.reverse)
      else if ch = '\\' then do
        bump
        let e ← escape
        stringBody fuel (e :: acc)
      else if ch.toNat < 0x20 then do bump; failHere .controlCharacterWhileParsingString
      else do bump; stringBody fuel (ch :: acc)

/-- Reads the body of a string literal whose opening quote has been taken. -/
def string : JsonRead String := do
  stringBody ((← get).rest.length + 1) []

end JsonRead

end FormulaShader
