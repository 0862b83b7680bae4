/-!
# UTF-8 lengths

Offsets and columns in this library count UTF-8 bytes: a character takes one to four of
them, as `Char.utf8Size` says.

Results:
* `utf8Length`: the bytes a list of characters takes, additive over `++`.
-/

namespace FormulaShader

/-- The number of bytes the characters take in UTF-8. -/
def utf8Length : List Char → Nat
  | [] => 0
  | c :: cs => c.utf8Size + utf8Length cs

@[simp] theorem utf8Length_nil : utf8Length [] = 0 := rfl

@[simp] theorem utf8Length_cons (c : Char) (cs : List Char) :
    utf8Length (c :: cs) = c.utf8Size + utf8Length cs := rfl

@[simp] theorem utf8Length_append (l m : List Char) :
    utf8Length (l ++ m) = utf8Length l + utf8Length m := by
  induction l with
  | nil => simp
  | cons c cs ih => simp [ih, Nat.add_assoc]

end FormulaShader
