import FormulaShader.Json.Reader
import FormulaShader.NameMap
import FormulaShader.Text.Quoted

/-!
# Reading JSON into a fixed shape

A typed reading takes JSON text straight into a value of a known shape: a string, a map from
names to values, a record with named fields. A value of another kind is the error
`invalid type: <what was found>, expected <what was wanted>`, reported just past a scalar
that was found and at the bracket of an array or object.

An error that arises from the meaning of what was read, rather than from the text (a value
of the wrong type, an unknown field, a string the target refuses), has no place of its own.
It gets one when the reading of the enclosing array or object ends: the closing bracket is
still looked for, and the error is placed where that search left the cursor.

Results:
* `JsonRead.invalidType`: reads past the value found and reports it.
* `JsonRead.closing`: reads a body and then its closing bracket, placing a body error.
* `JsonRead.typedString`, `JsonRead.typedMap`: a string; a map with sorted keys, a later
  entry replacing an earlier one.
-/

namespace FormulaShader

/-- What a typed reading found instead of what it expected. -/
inductive Unexpected where
  | null
  | bool (b : Bool)
  | unsigned (n : Nat)
  | signed (n : Int)
  | float (x : Binary64)
  | string (s : String)
  | sequence
  | map
  deriving Repr

namespace Unexpected

/-- A number's text as the JSON writer spells it, which always shows that it is not an
integer: `1.0`, `0.5`, `1e+16`. -/
def floatText (x : Binary64) : String := x.format FloatLayout.json

def text : Unexpected → String
  | .null => "null"
  | .bool b => "boolean `" ++ (if b then "true" else "false") ++ "`"
  | .unsigned n => "integer `" ++ toString n ++ "`"
  | .signed n => "integer `" ++ toString n ++ "`"
  | .float x => "floating point `" ++ floatText x ++ "`"
  | .string s => "string " ++ quoteForDump s
  | .sequence => "sequence"
  | .map => "map"

def ofNumber : JsonNumber → Unexpected
  | .unsigned n => .unsigned n
  | .signed n => .signed n
  | .double x => .float x

end Unexpected

namespace JsonRead

def unplaced (text : String) : JsonError := ⟨.custom text, none⟩

/-- Stops with an error, placing it here if it has no place. -/
def failPlaced {α : Type} (e : JsonError) : JsonRead α := do
  throw (e.placeAt (← get).here)

/-- Reports a value of the wrong kind: a scalar is read first, so that the error stands just
past it; an array or object is reported at its bracket. -/
def invalidType {α : Type} (expected : String) : JsonRead α := do
  let report := fun (u : Unexpected) =>
    failPlaced (unplaced ("invalid type: " ++ u.text ++ ", expected " ++ expected))
  match ← peek? with
  | some 'n' => bump; word "ull".toList; report .null
  | some 't' => bump; word "rue".toList; report (.bool true)
  | some 'f' => bump; word "alse".toList; report (.bool false)
  | some '-' => bump; let n ← number false; report (Unexpected.ofNumber n)
  | some '"' => bump; let s ← string; report (.string s)
  | some '[' => report .sequence
  | some '{' => report .map
  | some c =>
    if c.isDigit then do let n ← number true; report (Unexpected.ofNumber n)
    else failNext .expectedSomeValue
  | none => failNext .expectedSomeValue

/-- Reads `body`, then `close`. If the body fails, its error wins: `close` is still tried, to
move the cursor, and the error is placed where the cursor then stands unless it has a place. -/
def closing {α : Type} (body : JsonRead α) (close : JsonRead Unit) : JsonRead α := do
  let r ← tryCatch (Except.ok <$> body) fun e => pure (Except.error e)
  match r with
  | .ok a => close; pure a
  | .error e =>
    tryCatch close fun _ => pure ()
    failPlaced e

/-- Reads a string. -/
def typedString : JsonRead String := do
  match ← skipBlank with
  | none => failNext .eofWhileParsingValue
  | some '"' => bump; string
  | some _ => invalidType "a string"

def mapEntries {α : Type} (item : JsonRead α) : Nat → Bool → NameMap α → JsonRead (NameMap α)
  | 0, _, acc => pure acc
  | fuel + 1, first, acc => do
    match ← nextKey first with
    | none => pure acc
    | some key =>
      colon
      let v ← item
      mapEntries item fuel false (acc.insert key v).2

/-- Reads a map from names to values read by `item`. -/
def typedMap {α : Type} (item : JsonRead α) : JsonRead (NameMap α) := do
  match ← skipBlank with
  | none => failNext .eofWhileParsingValue
  | some '{' =>
    bump
    closing (mapEntries item ((← get).rest.length + 1) true .empty) closeObject
  | some _ => invalidType "a map"

end JsonRead

end FormulaShader
