import FormulaShader.Decimal.Layout

/-!
# JSON values and their compact text

A JSON number keeps the kind it was read as: an unsigned integer, a negative integer, or a
double. An object is a map: its fields are kept sorted by key with each key once, which is
the order in which it is written.

Results:
* `JsonValue.render` writes compact JSON text: no blanks, strings quoted with the short
  escapes `\" \\ \b \f \n \r \t` and `\u00xx` for the other control characters, doubles in
  the `FloatLayout.json` layout.
-/

namespace FormulaShader

/-- A JSON number as read: an integer in `[0, 2^64)`, a negative integer in `[-2^63, 0)`, or
any other number as the double it was read as. -/
inductive JsonNumber where
  | unsigned (n : Nat)
  | signed (n : Int)
  | double (x : Binary64)
  deriving Repr, DecidableEq

/-- A JSON value; object fields are sorted by key, each key once. -/
inductive JsonValue where
  | null
  | bool (b : Bool)
  | number (n : JsonNumber)
  | string (s : String)
  | array (items : List JsonValue)
  | object (fields : List (String × JsonValue))
  deriving Repr, Inhabited

namespace JsonNumber

/-- The number as a double; integers are rounded to the nearest double. -/
def toBinary64 : JsonNumber → Binary64
  | .unsigned n => Binary64.ofNat n
  | .signed n => Binary64.ofInt n
  | .double x => x

/-- The number as JSON text. -/
def render : JsonNumber → String
  | .unsigned n => toString n
  | .signed n => toString n
  | .double x => x.format FloatLayout.json

end JsonNumber

def hexDigit (n : Nat) : Char :=
  if n < 10 then Char.ofNat ('0'.toNat + n) else Char.ofNat ('a'.toNat + n - 10)

/-- `n` as exactly `width` lower-case hexadecimal digits (the low ones). -/
def hexText (width n : Nat) : String :=
  String.ofList ((List.range width).reverse.map fun i => hexDigit (n / Nat.pow 16 i % 16))

def jsonEscapeChar (c : Char) : String :=
  if c = '"' then "\\\""
  else if c = '\\' then "\\\\"
  else if c = '\n' then "\\n"
  else if c = '\r' then "\\r"
  else if c = '\t' then "\\t"
  else if c.toNat = 8 then "\\b"
  else if c.toNat = 12 then "\\f"
  else if c.toNat < 32 then "\\u" ++ hexText 4 c.toNat
  else String.singleton c

def jsonQuote (s : String) : String :=
  "\"" ++ String.join (s.toList.map jsonEscapeChar) ++ "\""

namespace JsonValue

mutual

/-- Compact JSON text of a value. -/
def render : JsonValue → String
  | .null => "null"
  | .bool b => if b then "true" else "false"
  | .number n => n.render
  | .string s => jsonQuote s
  | .array items => "[" ++ renderItems items ++ "]"
  | .object fields => "\x7b" ++ renderFields fields ++ "\x7d"

def renderItems : List JsonValue → String
  | [] => ""
  | [x] => x.render
  | x :: rest => x.render ++ "," ++ renderItems rest

def renderFields : List (String × JsonValue) → String
  | [] => ""
  | [(k, v)] => jsonQuote k ++ ":" ++ v.render
  | (k, v) :: rest => jsonQuote k ++ ":" ++ v.render ++ "," ++ renderFields rest

end

def field? (v : JsonValue) (key : String) : Option JsonValue :=
  match v with
  | .object fields => fields.lookup key
  | _ => none

/-- Inserts a field into sorted fields, replacing the value of an equal key. -/
def insertField (key : String) (value : JsonValue) :
    List (String × JsonValue) → List (String × JsonValue)
  | [] => [(key, value)]
  | (k, v) :: rest =>
    if key < k then (key, value) :: (k, v) :: rest
    else if key = k then (key, value) :: rest
    else (k, v) :: insertField key value rest

end JsonValue

end FormulaShader
