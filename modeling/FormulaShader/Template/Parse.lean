import FormulaShader.Template.Basic
import FormulaShader.Text.WhiteSpace
import FormulaShader.Text.Utf8

/-!
# Reading a template

In template text `{{` and `}}` stand for literal braces, and `{n}` is the slot of operand
`n`: the contents up to the first `}` are trimmed of white space and must then be a decimal
number, optionally signed `+`, no larger than 255. A `{` that is never closed and a `}` that
closes nothing are errors at their byte offset. Every slot below the highest one must occur.

Results:
* `Template.parse`: the template a text stands for, or the first fault in it.
* `slotBody_length`: the text after a slot is shorter than the text it was read from.
-/

namespace FormulaShader

namespace Template

def maxSlot : Nat := 255

/-- The contents of a slot up to its closing brace, and the text after it; none when no
brace closes it. -/
def slotBody : List Char → Option (List Char × List Char)
  | [] => none
  | c :: rest => if c = '}' then some ([], rest) else (slotBody rest).map fun p => (c :: p.1, p.2)

theorem slotBody_length {cs body rest : List Char} (h : slotBody cs = some (body, rest)) :
    rest.length < cs.length := by
  induction cs generalizing body with
  | nil => simp [slotBody] at h
  | cons c cs ih =>
    simp only [slotBody] at h
    split at h
    · cases h; simp
    · obtain ⟨⟨b, r⟩, hb, he⟩ := Option.map_eq_some_iff.mp h
      simp only [Prod.mk.injEq] at he
      obtain ⟨-, rfl⟩ := he
      have := ih hb
      simp only [List.length_cons]
      omega

def slotIndex? (contents : List Char) : Option Nat :=
  let digits := match trimWhiteSpace contents with
    | '+' :: ds => ds
    | ds => ds
  if digits ≠ [] ∧ digits.all Char.isDigit then
    let n := digits.foldl (fun acc d => acc * 10 + (d.toNat - '0'.toNat)) 0
    if n ≤ maxSlot then some n else none
  else none

/-- Closes the pending text, kept reversed, as a piece if it is not empty. -/
def flush (text : List Char) (acc : List Piece) : List Piece :=
  if text = [] then acc else .text (String.ofList text.reverse) :: acc

/-- Reads template text at byte `offset`, with the pending text and the pieces so far kept
reversed. -/
def scan (offset : Nat) (text : List Char) (acc : List Piece) :
    List Char → Except TemplateError Pieces
  | [] => .ok (flush text acc).reverse
  | '{' :: '{' :: after => scan (offset + 2) ('{' :: text) acc after
  | '{' :: rest =>
    match h : slotBody rest with
    | none => .error (.unclosedSlot offset)
    | some (body, after) =>
      have := slotBody_length h
      match slotIndex? body with
      | none => .error (.badSlot (String.ofList body))
      | some i => scan (offset + utf8Length body + 2) [] (.slot i :: flush text acc) after
  | '}' :: '}' :: after => scan (offset + 2) ('}' :: text) acc after
  | '}' :: _ => .error (.strayBrace offset)
  | c :: rest => scan (offset + c.utf8Size) (c :: text) acc rest
termination_by cs => cs.length

/-- The first slot below `arity` that the pieces never use. -/
def firstMissing (pieces : Pieces) (arity : Nat) : Option Nat :=
  (List.range arity).find? fun i => !pieces.contains (.slot i)

/-- Reads a template text. -/
def parse (source : String) : Except TemplateError Template := do
  let pieces ← scan 0 [] [] source.toList
  let arity := pieces.slotCount
  match firstMissing pieces arity with
  | some i => .error (.missingSlot i)
  | none => .ok ⟨source, pieces, arity⟩

end Template

end FormulaShader
