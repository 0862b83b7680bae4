import Mathlib
import FormulaShader.Library.Rule

/-!
# Tokens of shader expressions

Shader text is read in two stages: characters become tokens, and tokens become an
expression tree. This module holds the first stage for the part of the shading language that
scalar expressions use: decimal numbers, identifiers, the punctuation of calls, member
access and indexing, the four arithmetic operators and the six comparisons. Blanks only
separate tokens. Two characters that form a longer token stay together: `<=`, `>=`, `==`,
`!=`, and `--`, the decrement, which no expression holds.

The lexer reads one character at a time and keeps the token still growing as a `Pending`
state, so the tokens of a concatenation are the tokens of its parts whenever the character at
the junction cannot extend the token before it.

Results:
* `lex`: the tokens of a text.
* `lex_append`: the tokens of `a ++ b` are those of `a` then those of `b` when the first
  character of `b` does not extend the last token of `a`.
* `lex_append_of_separator_head`, `lex_append_of_separator_last`: a blank, a parenthesis or a
  comma at the junction is such a character.
* `lex_minus_cons`: a minus sign before text that does not start with one is its own token.
-/

namespace FormulaShader.Wgsl

/-- A token of a shader expression. A `number` is digits and points and whatever letters follow
them without a break; `other` is text that no expression holds: `--`, `=`, `!` or any other
character. -/
inductive Token where
  | number (text : List Char)
  | ident (name : String)
  | dot
  | lparen
  | rparen
  | lbracket
  | rbracket
  | comma
  | plus
  | minus
  | star
  | slash
  | compare (op : CompareOp)
  | other (text : List Char)
  deriving DecidableEq, Repr

def isIdentStart (c : Char) : Bool := c.isAlpha || c == '_'

def isIdentChar (c : Char) : Bool := c.isAlphanum || c == '_'

theorem isIdentStart_of_isDigit {c : Char} (hc : c.isDigit = true) : isIdentStart c = false := by
  simp only [Char.isDigit, Bool.and_eq_true, decide_eq_true_eq, UInt32.le_iff_toNat_le] at hc
  simp only [isIdentStart, Char.isAlpha, Char.isUpper, Char.isLower, Bool.or_eq_false_iff,
    Bool.and_eq_false_iff, decide_eq_false_iff_not, UInt32.le_iff_toNat_le, beq_eq_false_iff_ne]
  -- the digits lie below both alphabets
  have h9 : '9'.val.toNat = 57 := rfl
  have hA : 'A'.val.toNat = 65 := rfl
  have ha : 'a'.val.toNat = 97 := rfl
  refine ⟨⟨?_, ?_⟩, ?_⟩
  · omega
  · omega
  · rintro rfl
    simp at hc

/-- The token a character forms on its own, when no second character extends it. -/
def singleToken : Char → Token
  | '.' => .dot
  | '(' => .lparen
  | ')' => .rparen
  | '[' => .lbracket
  | ']' => .rbracket
  | ',' => .comma
  | '+' => .plus
  | '-' => .minus
  | '*' => .star
  | '/' => .slash
  | '<' => .compare .lt
  | '>' => .compare .gt
  | c => .other [c]

/-- The token the lexer is building between two characters: none, an identifier or a number so
far, one of `-`, `<`, `>`, `=`, `!` that a second character may extend, or a token that no
character extends. -/
inductive Pending where
  | idle
  | word (chars : List Char)
  | number (chars : List Char)
  | opening (c : Char)
  | complete (t : Token)

namespace Pending

def start (c : Char) : Pending :=
  if c.isWhitespace then .idle
  else if isIdentStart c then .word [c]
  else if c.isDigit then .number [c]
  else if c = '-' ∨ c = '<' ∨ c = '>' ∨ c = '=' ∨ c = '!' then .opening c
  else .complete (singleToken c)

/-- The state after one more character of the open token, if the character extends it. -/
def extend : Pending → Char → Option Pending
  | .word w, c => if isIdentChar c then some (.word (w ++ [c])) else none
  | .number n, c => if isIdentChar c || c == '.' then some (.number (n ++ [c])) else none
  | .opening '-', '-' => some (.complete (.other ['-', '-']))
  | .opening '<', '=' => some (.complete (.compare .le))
  | .opening '>', '=' => some (.complete (.compare .ge))
  | .opening '=', '=' => some (.complete (.compare .eq))
  | .opening '!', '=' => some (.complete (.compare .ne))
  | _, _ => none

def flush : Pending → List Token
  | .idle => []
  | .word w => [.ident (String.ofList w)]
  | .number n => [.number n]
  | .opening c => [singleToken c]
  | .complete t => [t]

end Pending

def lexFrom : Pending → List Char → List Token
  | p, [] => p.flush
  | p, c :: cs =>
    match p.extend c with
    | some q => lexFrom q cs
    | none => p.flush ++ lexFrom (Pending.start c) cs

/-- The tokens of a text. -/
def lex (cs : List Char) : List Token := lexFrom .idle cs

example : lex "max(pos.x, -2.5) <= 1.0".toList =
    [.ident "max", .lparen, .ident "pos", .dot, .ident "x", .comma, .minus, .number "2.5".toList,
      .rparen, .compare .le, .number "1.0".toList] := by decide

/-! ## Concatenation -/

/-- The tokens closed while reading `cs` from state `p`, and the state after it. -/
def run : Pending → List Char → List Token × Pending
  | p, [] => ([], p)
  | p, c :: cs =>
    match p.extend c with
    | some q => run q cs
    | none => ((p.flush ++ (run (Pending.start c) cs).1), (run (Pending.start c) cs).2)

theorem lexFrom_append (p : Pending) (a b : List Char) :
    lexFrom p (a ++ b) = (run p a).1 ++ lexFrom (run p a).2 b := by
  induction a generalizing p with
  | nil => rfl
  | cons c a ih =>
    simp only [List.cons_append, lexFrom, run]
    cases p.extend c with
    | some q => exact ih q
    | none => rw [ih, List.append_assoc]

/-- From a state that the next character does not extend, reading goes on as from scratch
after the open token is closed. -/
theorem lexFrom_of_extend_none {p : Pending} {b : List Char}
    (h : ∀ c ∈ b.head?, p.extend c = none) : lexFrom p b = p.flush ++ lex b := by
  cases b with
  | nil => simp [lexFrom, lex, Pending.flush]
  | cons c cs =>
    have hc : p.extend c = none := h c rfl
    have hidle : Pending.idle.extend c = none := rfl
    simp only [lex, lexFrom, hc, hidle, Pending.flush, List.nil_append]

theorem lex_eq_run (cs : List Char) : lex cs = (run .idle cs).1 ++ (run .idle cs).2.flush := by
  have h := lexFrom_append .idle cs []
  rw [List.append_nil] at h
  rw [lex, h, lexFrom]

/-- The tokens of a concatenation are those of its parts when the first character of the
second part does not extend the token the first part ends in. -/
theorem lex_append {a b : List Char} (h : ∀ c ∈ b.head?, (run .idle a).2.extend c = none) :
    lex (a ++ b) = lex a ++ lex b := by
  rw [lex, lexFrom_append, lexFrom_of_extend_none h, lex_eq_run a, List.append_assoc]

/-! ## Separators -/

/-- A character that ends any open token and starts none that a later character extends: a
blank, a parenthesis or a comma. -/
def IsSeparator (c : Char) : Prop := c.isWhitespace ∨ c = '(' ∨ c = ')' ∨ c = ','

instance : DecidablePred IsSeparator := fun c =>
  inferInstanceAs (Decidable (c.isWhitespace ∨ c = '(' ∨ c = ')' ∨ c = ','))

theorem whitespace_cases {c : Char} (h : c.isWhitespace = true) :
    c = ' ' ∨ c = '\t' ∨ c = '\r' ∨ c = '\n' := by
  simp only [Char.isWhitespace, Bool.or_eq_true, decide_eq_true_eq] at h
  tauto

theorem isWhitespace_of_isDigit {c : Char} (hc : c.isDigit = true) : c.isWhitespace = false := by
  cases hw : c.isWhitespace with
  | false => rfl
  | true =>
    rcases whitespace_cases hw with rfl | rfl | rfl | rfl
    all_goals simp at hc

theorem extend_separator (p : Pending) {c : Char} (hc : IsSeparator c) : p.extend c = none := by
  have hid : isIdentChar c = false := by
    rcases hc with h | rfl | rfl | rfl
    · -- a blank is neither a letter nor a digit
      rcases whitespace_cases h with rfl | rfl | rfl | rfl
      all_goals decide
    all_goals decide
  have hdash : c ≠ '-' ∧ c ≠ '=' ∧ c ≠ '.' := by
    rcases hc with h | rfl | rfl | rfl
    · rcases whitespace_cases h with rfl | rfl | rfl | rfl
      all_goals decide
    all_goals decide
  match p with
  | .idle => rfl
  | .word w => simp [Pending.extend, hid]
  | .number n => simp [Pending.extend, hid, hdash.2.2]
  | .opening o => unfold Pending.extend; split <;> simp_all
  | .complete t => rfl

/-- After a separator nothing is open that a later character could extend. -/
theorem run_separator_last {a : List Char} {s : Char} (hs : IsSeparator s) (c : Char) :
    (run .idle (a ++ [s])).2.extend c = none := by
  suffices h : ∀ p : Pending, (run p (a ++ [s])).2 = Pending.start s by
    -- a blank leaves nothing open, and a parenthesis or a comma is a whole token
    have hstart : Pending.start s = .idle ∨ ∃ t, Pending.start s = .complete t := by
      rcases hs with hw | rfl | rfl | rfl
      · exact .inl (by simp [Pending.start, hw])
      all_goals exact .inr ⟨_, rfl⟩
    rw [h]
    rcases hstart with hi | ⟨t, ht⟩
    · rw [hi]; rfl
    · rw [ht]; rfl
  intro p
  induction a generalizing p with
  | nil => simp [run, extend_separator p hs]
  | cons c a ih =>
    simp only [List.cons_append, run]
    cases p.extend c with
    | some q => exact ih q
    | none => exact ih _

theorem lex_append_of_separator_head {a b : List Char} (h : ∀ c ∈ b.head?, IsSeparator c) :
    lex (a ++ b) = lex a ++ lex b :=
  lex_append fun c hc => extend_separator _ (h c hc)

theorem lex_append_of_separator_last {a b : List Char} (h : ∀ c ∈ a.getLast?, IsSeparator c) :
    lex (a ++ b) = lex a ++ lex b := by
  cases ha : a.getLast? with
  | none =>
    rw [List.getLast?_eq_none_iff] at ha
    simp [ha, lex, lexFrom, Pending.flush]
  | some s =>
    obtain ⟨init, rfl⟩ : ∃ init, a = init ++ [s] := by
      obtain ⟨init, hinit⟩ := List.getLast?_eq_some_iff.1 ha
      exact ⟨init, hinit⟩
    exact lex_append fun c _ => run_separator_last (h s ha) c

/-- A minus sign before text that does not start with one is a token of its own. -/
theorem lex_minus_cons {b : List Char} (h : b.head? ≠ some '-') : lex ('-' :: b) = .minus :: lex b := by
  have hrun : run .idle ['-'] = ([], .opening '-') := rfl
  have hsplit := @lex_append ['-'] b (by
    intro c hc
    rw [hrun]
    have hne : c ≠ '-' := fun hcd => h (hcd ▸ hc)
    unfold Pending.extend
    split <;> simp_all)
  rw [List.singleton_append] at hsplit
  rw [hsplit]
  rfl

end FormulaShader.Wgsl
