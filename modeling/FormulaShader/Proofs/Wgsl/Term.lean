import Mathlib
import FormulaShader.Proofs.Wgsl.Token

/-!
# Expression trees of the shading language

The trees that scalar shader expressions parse to, with the tokens each tree is written as
and its value. The grammar is the arithmetic part of the language: a number, an identifier,
member access `b.f`, indexing `b[i]`, a call `f(a, b)`, a parenthesized expression, a
leading minus, and the four left-associative operators, `*` and `/` binding tighter than
`+` and `-`. A comparison stands only in the condition of a `select`, in parentheses:
`select(f, t, (l < r))`.

A tree is *well formed* when writing its tokens out and reading them back gives the same
tree: the operands of each operator bind at least as tightly as the operator (strictly on the
right, since the operators associate to the left), a minus stands before a unary
expression, and a member or an index follows an atom.

A value is taken in any field with a linear order. The names the text uses, the builtin
functions it calls and `select` are read through an `Interp`, which fixes nothing about
them; numbers are read as the exact decimals they spell.

Results:
* `Term.tokens`, `Term.cat`, `Term.WF`, `Term.eval`.
* `numeralValue`: the exact value of a decimal numeral.
* `Term.tokens_ne_nil`, `Term.head_tokens_ne_rparen`, `Term.head_tokens_ne_minus`: what a
  tree's tokens can start with.
-/

namespace FormulaShader

def CompareOp.holds {α : Type} [LinearOrder α] : CompareOp → α → α → Bool
  | .lt, a, b => decide (a < b)
  | .le, a, b => decide (a ≤ b)
  | .gt, a, b => decide (a > b)
  | .ge, a, b => decide (a ≥ b)
  | .eq, a, b => decide (a = b)
  | .ne, a, b => decide (a ≠ b)

end FormulaShader

namespace FormulaShader.Wgsl

/-- An arithmetic operator between two operands. -/
inductive BinOp where
  | add
  | sub
  | mul
  | div
  deriving DecidableEq, Repr

namespace BinOp

def token : BinOp → Token
  | .add => .plus
  | .sub => .minus
  | .mul => .star
  | .div => .slash

def prec : BinOp → Precedence
  | .add | .sub => .additive
  | .mul | .div => .multiplicative

def apply {α : Type} [Field α] : BinOp → α → α → α
  | .add, a, b => a + b
  | .sub, a, b => a - b
  | .mul, a, b => a * b
  | .div, a, b => a / b

end BinOp

def Token.binOp? : Token → Option BinOp
  | .plus => some .add
  | .minus => some .sub
  | .star => some .mul
  | .slash => some .div
  | _ => none

@[simp] theorem binOp?_token (op : BinOp) : op.token.binOp? = some op := by
  cases op <;> rfl

/-! ## Numerals -/

/-- A decimal numeral: a digit first, then digits and at most one point. -/
def validNumeral (s : List Char) : Bool :=
  s.head?.any Char.isDigit && s.all (fun c => c.isDigit || c == '.') && s.count '.' ≤ 1

/-- The exact value of a numeral: its digits read as one number, divided by ten for each
digit after the point. -/
def numeralValue (s : List Char) : ℚ :=
  (Nat.ofDigitChars 10 (s.filter (· != '.')) 0 : ℚ) / 10 ^ ((s.dropWhile (· != '.')).drop 1).length

/-! ## Trees -/

/-- An expression of the shading language; `select` is `select(onFalse, onTrue, (lhs op rhs))`. -/
inductive Term where
  | number (text : List Char)
  | ident (name : String)
  | member (base : Term) (field : String)
  | index (base position : Term)
  | call (fn : String) (args : List Term)
  | select (onFalse onTrue : Term) (op : CompareOp) (lhs rhs : Term)
  | paren (inner : Term)
  | neg (operand : Term)
  | bin (op : BinOp) (lhs rhs : Term)
  deriving Repr

namespace Term

mutual

/-- The tokens a tree is written as. -/
def tokens : Term → List Token
  | .number s => [.number s]
  | .ident x => [.ident x]
  | .member b f => b.tokens ++ [.dot, .ident f]
  | .index b i => b.tokens ++ .lbracket :: i.tokens ++ [.rbracket]
  | .call f args => .ident f :: .lparen :: argTokens args ++ [.rparen]
  | .select f t op l r =>
    .ident "select" :: .lparen :: f.tokens ++ .comma :: t.tokens ++ .comma :: .lparen ::
      l.tokens ++ .compare op :: r.tokens ++ [.rparen, .rparen]
  | .paren t => .lparen :: t.tokens ++ [.rparen]
  | .neg t => .minus :: t.tokens
  | .bin op l r => l.tokens ++ op.token :: r.tokens

def argTokens : List Term → List Token
  | [] => []
  | t :: ts => t.tokens ++ moreArgTokens ts

def moreArgTokens : List Term → List Token
  | [] => []
  | t :: ts => .comma :: t.tokens ++ moreArgTokens ts

end

/-- How tightly a tree binds as an operand. -/
def cat : Term → Precedence
  | .neg _ => .unary
  | .bin op _ _ => op.prec
  | _ => .atom

mutual

/-- A tree that reading its own tokens gives back. -/
def WF : Term → Prop
  | .number s => validNumeral s = true
  | .ident _ => True
  | .member b _ => b.WF ∧ b.cat = .atom
  | .index b i => b.WF ∧ b.cat = .atom ∧ i.WF
  | .call f args => f ≠ "select" ∧ WFAll args
  | .select f t _ l r => f.WF ∧ t.WF ∧ l.WF ∧ r.WF
  | .paren t => t.WF
  | .neg t => t.WF ∧ Precedence.unary.rank ≤ t.cat.rank
  | .bin op l r => l.WF ∧ r.WF ∧ op.prec.rank ≤ l.cat.rank ∧ op.prec.rank < r.cat.rank

def WFAll : List Term → Prop
  | [] => True
  | t :: ts => t.WF ∧ WFAll ts

end

theorem wfAll_iff : ∀ {ts : List Term}, WFAll ts ↔ ∀ t ∈ ts, t.WF
  | [] => by simp [WFAll]
  | t :: ts => by simp [WFAll, wfAll_iff]

end Term

/-! ## Values -/

/-- What the names and builtin functions of a text stand for. -/
structure Interp (α : Type) where
  ident : String → α
  member : α → String → α
  index : α → α → α
  call : String → List α → α
  select : α → α → Bool → α

namespace Term

variable {α : Type} [Field α] [LinearOrder α]

mutual

/-- The value of a tree. -/
def eval (I : Interp α) : Term → α
  | .number s => (numeralValue s : α)
  | .ident x => I.ident x
  | .member b f => I.member (b.eval I) f
  | .index b i => I.index (b.eval I) (i.eval I)
  | .call f args => I.call f (evalAll I args)
  | .select f t op l r => I.select (f.eval I) (t.eval I) (op.holds (l.eval I) (r.eval I))
  | .paren t => t.eval I
  | .neg t => -t.eval I
  | .bin op l r => op.apply (l.eval I) (r.eval I)

def evalAll (I : Interp α) : List Term → List α
  | [] => []
  | t :: ts => t.eval I :: evalAll I ts

end

theorem evalAll_eq_map (I : Interp α) : ∀ ts : List Term, evalAll I ts = ts.map (eval I)
  | [] => rfl
  | t :: ts => by rw [evalAll, evalAll_eq_map I ts, List.map_cons]

/-! ## First tokens -/

theorem tokens_ne_nil : ∀ t : Term, t.tokens ≠ []
  | .number _ | .ident _ | .call _ _ | .select _ _ _ _ _ | .paren _ | .neg _ => by simp [tokens]
  | .member b _ | .index b _ | .bin _ b _ => by simp [tokens]

theorem head_tokens_append (t : Term) (rest : List Token) :
    (t.tokens ++ rest).head? = t.tokens.head? := by
  obtain ⟨tok, toks, h⟩ := List.exists_cons_of_ne_nil t.tokens_ne_nil
  rw [h, List.cons_append, List.head?_cons, List.head?_cons]

/-- No tree is written starting with a closing parenthesis. -/
theorem head_tokens_ne_rparen : ∀ t : Term, t.tokens.head? ≠ some .rparen
  | .number _ | .ident _ | .call _ _ | .select _ _ _ _ _ | .paren _ | .neg _ => by simp [tokens]
  | .member b _ | .index b _ | .bin _ b _ => by
    simp only [tokens, List.append_assoc]
    rw [head_tokens_append]
    exact head_tokens_ne_rparen b

/-- A well-formed atom is not written starting with a minus sign. -/
theorem head_tokens_ne_minus : ∀ t : Term, t.WF → t.cat = .atom → t.tokens.head? ≠ some .minus
  | .number _, _, _ | .ident _, _, _ | .call _ _, _, _ | .select _ _ _ _ _, _, _ | .paren _, _, _ =>
    by simp [tokens]
  | .member b _, ⟨hb, hbat⟩, _ | .index b _, ⟨hb, hbat, _⟩, _ => by
    simp only [tokens, List.append_assoc]
    rw [head_tokens_append]
    exact head_tokens_ne_minus b hb hbat
  | .neg _, _, hcat => by simp [cat] at hcat
  | .bin op _ _, _, hcat => by cases op <;> simp [cat, BinOp.prec] at hcat

end Term

end FormulaShader.Wgsl
