import FormulaShader.Json.Typed
import FormulaShader.Bindings.Basic
import FormulaShader.Template.Parse

/-!
# Bindings as JSON

A bindings table is written as an object with the fields `vars` (names to text) and
`overrides` (names to template text), in that order, and read from such an object or from an
array `[vars, overrides]`. A missing field, or a missing array item, is empty. An unknown
field, a field given twice, a value of the wrong type and a template that does not parse are
errors; within `vars` or `overrides` a later entry for a name replaces an earlier one.

Results:
* `Bindings.ofJson`: reads a table from JSON text, or reports the first fault and its place.
* `Bindings.serialize`: the compact JSON text of a table.
-/

namespace FormulaShader

namespace Bindings

open JsonRead

/-- Reads a template from its text; a text that does not parse is an error of meaning. -/
def typedTemplate : JsonRead Template := do
  let s ← typedString
  match Template.parse s with
  | .ok t => pure t
  | .error e => throw (unplaced e.message)

def varsField : JsonRead (NameMap String) := typedMap typedString

def overridesField : JsonRead (NameMap Template) := typedMap typedTemplate

def fields : Nat → Bool → Option (NameMap String) → Option (NameMap Template) →
    JsonRead Bindings
  | 0, _, vars, overrides => pure ⟨vars.getD .empty, overrides.getD .empty⟩
  | fuel + 1, first, vars, overrides => do
    match ← nextKey first with
    | none => pure ⟨vars.getD .empty, overrides.getD .empty⟩
    | some "vars" =>
      if vars.isSome then throw (unplaced "duplicate field `vars`")
      colon
      let v ← varsField
      fields fuel false (some v) overrides
    | some "overrides" =>
      if overrides.isSome then throw (unplaced "duplicate field `overrides`")
      colon
      let o ← overridesField
      fields fuel false vars (some o)
    | some key =>
      throw (unplaced ("unknown field `" ++ key ++ "`, expected `vars` or `overrides`"))

/-- Reads the items of a table's array: `vars`, then `overrides`, each empty if missing. -/
def items : JsonRead Bindings := do
  if ← moreItems true then
    let vars ← varsField
    if ← moreItems false then pure ⟨vars, ← overridesField⟩ else pure ⟨vars, .empty⟩
  else pure {}

def typed : JsonRead Bindings := do
  match ← skipBlank with
  | none => failNext .eofWhileParsingValue
  | some '[' => bump; closing items closeArray
  | some '{' => bump; closing (fields ((← get).rest.length + 1) true none none) closeObject
  | some _ => invalidType "struct Bindings"

/-- Reads a table from JSON text. -/
def ofJson (s : String) : Except JsonError Bindings :=
  JsonRead.runOn (do let b ← typed; finish; pure b) s

def mapText {α : Type} (value : α → String) (m : NameMap α) : String :=
  "\x7b" ++ ",".intercalate (m.entries.map fun (k, v) => jsonQuote k ++ ":" ++ value v) ++ "\x7d"

/-- The compact JSON text of a table. -/
def serialize (b : Bindings) : String :=
  "\x7b\"vars\":" ++ mapText jsonQuote b.vars ++ ",\"overrides\":" ++
    mapText (fun t => jsonQuote t.source) b.overrides ++ "\x7d"

end Bindings

end FormulaShader
