import FormulaShader.Expr.Basic
import FormulaShader.Json.Reader
import FormulaShader.Decimal.Reading

/-!
# Formulas as MathJSON

MathJSON writes a formula as JSON: a number is a literal, a string is a symbol, an array is
an application whose head is its first item, and an object is one of the long forms
`{"num": ...}`, `{"sym": ...}`, `{"fn": [...]}`. Every JSON value decodes to some tree:
what has no formula reading becomes a `foreign` node that names what it was.

Results:
* `Expr.ofJson`: total decoding; an object is checked for `num`, then `sym`, `fn`, `str`
  and `dict`.
* `Expr.toJson`: canonical encoding; an integral literal below `9e15` in magnitude is an
  integer, a non-finite one the long number form.
* `Expr.parse`: text to tree, failing only on text that is not JSON.
-/

namespace FormulaShader

/-- Why MathJSON text could not be read. -/
inductive ParseError where
  | json (error : JsonError)
  deriving Repr

def ParseError.message : ParseError → String
  | .json e => "invalid MathJSON: " ++ e.message

namespace Expr

/-- The reading of a string number such as `"1.5"`, `"NaN"` or `"-Infinity"`. Apart from
the three spelled-out specials, trailing `n` letters are dropped and the rest is read as a
decimal, `inf`, `infinity` or `nan` in any case, with an optional sign. -/
def parseNumberText (s : String) : Option Binary64 :=
  if s = "NaN" then some Binary64.nan
  else if s = "Infinity" ∨ s = "+Infinity" then some (Binary64.infinity false)
  else if s = "-Infinity" then some (Binary64.infinity true)
  else (DecimalText.parse? (String.ofList (s.toList.reverse.dropWhile (· = 'n')).reverse)).map
    DecimalText.toBinary64

/-- A symbol string: quoted as `'...'` it is a string, otherwise an identifier. -/
def ofSymbol (s : String) : Expr :=
  if s.utf8ByteSize ≥ 2 ∧ s.front = '\'' ∧ s.back = '\'' then .foreign ("string " ++ s)
  else .identifier s

def ofNumberField : JsonValue → Expr
  | .string s =>
    match parseNumberText s with
    | some x => .literal x
    | none => .foreign ("number '" ++ s ++ "'")
  | .number n => .literal n.toBinary64
  | _ => .foreign "malformed number object"

def ofSymbolField : JsonValue → Expr
  | .string s => ofSymbol s
  | _ => .foreign "malformed symbol object"

/-- The long forms an object holds, each decoded. -/
structure LongForms where
  num : Option Expr := none
  sym : Option Expr := none
  fn : Option Expr := none
  str : Bool := false
  dict : Bool := false

/-- The tree an object stands for: the first long form present, in the order `num`, `sym`,
`fn`, `str`, `dict`. -/
def LongForms.pick (f : LongForms) : Expr :=
  match f.num, f.sym, f.fn with
  | some e, _, _ => e
  | none, some e, _ => e
  | none, none, some e => e
  | none, none, none =>
    if f.str then .foreign "string" else if f.dict then .foreign "dictionary" else .foreign "object"

mutual

/-- Decodes a JSON value. -/
def ofJson : JsonValue → Expr
  | .number n => .literal n.toBinary64
  | .string s => ofSymbol s
  | .array items => ofItems items
  | .object fields => (longForms fields).pick
  | .bool b => .foreign (if b then "boolean true" else "boolean false")
  | .null => .foreign "null"

/-- Decodes an application array: a string head and its operands. -/
def ofItems : List JsonValue → Expr
  | [] => .foreign "empty list"
  | .string head :: args => .application head (ofList args)
  | _ :: _ => .foreign "application with a computed head"

def ofList : List JsonValue → List Expr
  | [] => []
  | v :: vs => ofJson v :: ofList vs

def longForms : List (String × JsonValue) → LongForms
  | [] => {}
  | (key, v) :: rest =>
    let f := longForms rest
    if key = "num" then { f with num := some (ofNumberField v) }
    else if key = "sym" then { f with sym := some (ofSymbolField v) }
    else if key = "fn" then
      match v with
      | .array items => { f with fn := some (ofItems items) }
      | _ => { f with fn := some (.foreign "malformed function object") }
    else if key = "str" then { f with str := true }
    else if key = "dict" then { f with dict := true }
    else f

end

mutual

/-- Encodes a tree as canonical MathJSON. -/
def toJson : Expr → JsonValue
  | .literal x =>
    if x.isNaN then .object [("num", .string "NaN")]
    else if !x.isFinite then
      .object [("num", .string (if x.signBitSet then "-Infinity" else "+Infinity"))]
    else if x.isIntegral && x.magnitudeBelow 9000000000000000 1 then
      let n := x.truncate
      .number (if n < 0 then .signed n else .unsigned n.toNat)
    else .number (.double x)
  | .identifier name => .string name
  | .application head args => .array (.string head :: toJsonList args)
  | .foreign description => .array [.string "Error", .string ("'" ++ description ++ "'")]

def toJsonList : List Expr → List JsonValue
  | [] => []
  | e :: es => toJson e :: toJsonList es

end

def display (e : Expr) : String := e.toJson.render

/-- Reads MathJSON text. -/
def parse (s : String) : Except ParseError Expr :=
  match JsonValue.parse s with
  | .ok v => .ok (ofJson v)
  | .error e => .error (.json e)

end Expr

end FormulaShader
