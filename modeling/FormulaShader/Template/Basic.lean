/-!
# Slot templates

A template is target text with numbered holes: `({0} - {1})` takes two operands and puts
them where the slots stand. It is kept as the text it was written as, the pieces that text
reads as, and its arity, one more than the highest slot. Rendering fills each slot with the
operand of that number, or with nothing when there is no such operand.

Results:
* `Pieces.render`: the pieces with their slots filled.
* `Pieces.slotCount`: the arity of a piece list.
* `TemplateError.message`: the text of each way a template can be malformed.
-/

namespace FormulaShader

/-- One piece of a template: text copied as it stands, or the slot of the operand of that
number. -/
inductive Piece where
  | text (s : String)
  | slot (index : Nat)
  deriving Repr, DecidableEq, Inhabited

abbrev Pieces := List Piece

namespace Pieces

/-- The operand of number `i`, or nothing. -/
def operand (args : List String) (i : Nat) : String := args[i]?.getD ""

/-- Fills the slots with the operands. -/
def render (pieces : Pieces) (args : List String) : String :=
  String.join (pieces.map fun
    | .text s => s
    | .slot i => operand args i)

/-- One more than the highest slot number, zero for no slot. -/
def slotCount (pieces : Pieces) : Nat :=
  pieces.foldl (fun acc p =>
    match p with
    | .slot i => max acc (i + 1)
    | .text _ => acc) 0

end Pieces

/-- A template as written, its pieces and its arity. -/
structure Template where
  source : String
  pieces : Pieces
  arity : Nat
  deriving Repr, DecidableEq, Inhabited

namespace Template

/-- A template of known pieces, its arity counted from them. -/
def ofPieces (source : String) (pieces : Pieces) : Template := ⟨source, pieces, pieces.slotCount⟩

/-- Fills the slots with the operands. -/
def render (t : Template) (args : List String) : String := t.pieces.render args

/-- The signed difference `({0} - {1})` of two operands. -/
def difference : Template :=
  ofPieces "(\x7b0\x7d - \x7b1\x7d)" [.text "(", .slot 0, .text " - ", .slot 1, .text ")"]

end Template

/-- Why a template text is malformed: an opening brace never closed, or a closing brace that
closes nothing, at its offset in UTF-8 bytes; slot contents that are no number up to 255; a slot
number below the highest that is never used. -/
inductive TemplateError where
  | unclosedSlot (offset : Nat)
  | badSlot (contents : String)
  | strayBrace (offset : Nat)
  | missingSlot (index : Nat)
  deriving Repr, DecidableEq

namespace TemplateError

/-- The text of a template error. -/
def message : TemplateError → String
  | .unclosedSlot n => "unclosed '\x7b' at offset " ++ toString n
  | .badSlot s => "invalid slot '\x7b" ++ s ++ "\x7d'"
  | .strayBrace n => "unmatched '\x7d' at offset " ++ toString n
  | .missingSlot i => "slot \x7b" ++ toString i ++ "\x7d is never used"

def kind : TemplateError → String
  | .unclosedSlot _ => "UnclosedSlot"
  | .badSlot _ => "BadSlot"
  | .strayBrace _ => "StrayBrace"
  | .missingSlot _ => "MissingSlot"

end TemplateError

end FormulaShader
