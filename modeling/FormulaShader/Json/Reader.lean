import FormulaShader.Json.Number

/-!
# Reading a JSON value

A value is read after skipping blanks: a word, a number, a string, an array or an object.
Arrays and objects nest at most 127 deep; entering the 128th level is the error
`recursion limit exceeded`, reported just past its bracket. Object keys must be strings, a
later field replaces an earlier one with the same key, and the fields are kept sorted. After
the value only blanks may follow.

Results:
* `JsonValue.parse` reads a whole text, or names the first fault and its place.
-/

namespace FormulaShader

namespace JsonRead

/-- Nesting depth allowed for arrays and objects, counted as the reader counts it. -/
def depthLimit : Nat := 128

def closeArray : JsonRead Unit := do
  match ← skipBlank with
  | some ']' => bump
  | some ',' =>
    bump
    match ← skipBlank with
    | some ']' => failNext .trailingComma
    | _ => failNext .trailingCharacters
  | some _ => failNext .trailingCharacters
  | none => failNext .eofWhileParsingList

def closeObject : JsonRead Unit := do
  match ← skipBlank with
  | some '}' => bump
  | some ',' => failNext .trailingComma
  | some _ => failNext .trailingCharacters
  | none => failNext .eofWhileParsingObject

/-- Whether another array item follows; takes the comma before it. -/
def moreItems (first : Bool) : JsonRead Bool := do
  match ← skipBlank with
  | none => failNext .eofWhileParsingList
  | some ']' => pure false
  | some c =>
    if first then pure true
    else if c = ',' then do
      bump
      match ← skipBlank with
      | some ']' => failNext .trailingComma
      | some _ => pure true
      | none => failNext .eofWhileParsingValue
    else failNext .expectedListCommaOrEnd

/-- The key of the next object field, if another follows; takes the comma before it. -/
def nextKey (first : Bool) : JsonRead (Option String) := do
  let c ← skipBlank
  let c ←
    match c with
    | some '}' => return none
    | some ',' =>
      if first then pure (some ',')
      else do bump; skipBlank
    | some c => if first then pure (some c) else failNext .expectedObjectCommaOrEnd
    | none => failNext .eofWhileParsingObject
  match c with
  | some '"' => do bump; some <$> string
  | some '}' => failNext .trailingComma
  | some _ => failNext .keyMustBeAString
  | none => failNext .eofWhileParsingValue

def colon : JsonRead Unit := do
  match ← skipBlank with
  | some ':' => bump
  | some _ => failNext .expectedColon
  | none => failNext .eofWhileParsingObject

mutual

/-- Reads one value with `depth` levels of nesting left. -/
def value (depth : Nat) : JsonRead JsonValue := do
  match ← skipBlank with
  | none => failNext .eofWhileParsingValue
  | some c =>
    match c with
    | 'n' => do bump; word "ull".toList; pure .null
    | 't' => do bump; word "rue".toList; pure (.bool true)
    | 'f' => do bump; word "alse".toList; pure (.bool false)
    | '-' => do bump; .number <$> number false
    | '"' => do bump; .string <$> string
    | '[' =>
      match depth with
      | 0 | 1 => failNext .recursionLimitExceeded
      | d + 1 => do
        bump
        let items ← items d ((← get).rest.length + 1) true []
        closeArray
        pure (.array items)
    | '{' =>
      match depth with
      | 0 | 1 => failNext .recursionLimitExceeded
      | d + 1 => do
        bump
        let fields ← fields d ((← get).rest.length + 1) true []
        closeObject
        pure (.object fields)
    | c => if c.isDigit then .number <$> number true else failNext .expectedSomeValue
termination_by (depth, 0)

def items (depth : Nat) (fuel : Nat) (first : Bool) (acc : List JsonValue) :
    JsonRead (List JsonValue) := do
  match fuel with
  | 0 => pure acc.reverse
  | fuel + 1 =>
    if ← moreItems first then
      let v ← value depth
      items depth fuel false (v :: acc)
    else pure acc.reverse
termination_by (depth, fuel + 1)

def fields (depth : Nat) (fuel : Nat) (first : Bool) (acc : List (String × JsonValue)) :
    JsonRead (List (String × JsonValue)) := do
  match fuel with
  | 0 => pure acc
  | fuel + 1 =>
    match ← nextKey first with
    | none => pure acc
    | some key =>
      colon
      let v ← value depth
      fields depth fuel false (JsonValue.insertField key v acc)
termination_by (depth, fuel + 1)

end

/-- After a whole value only blanks may follow. -/
def finish : JsonRead Unit := do
  match ← skipBlank with
  | none => pure ()
  | some _ => failNext .trailingCharacters

end JsonRead

/-- Reads a whole text as one JSON value. -/
def JsonValue.parse (s : String) : Except JsonError JsonValue :=
  JsonRead.runOn (do let v ← JsonRead.value JsonRead.depthLimit; JsonRead.finish; pure v) s

end FormulaShader
