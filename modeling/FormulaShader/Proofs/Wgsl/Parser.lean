import Mathlib
import FormulaShader.Proofs.Wgsl.Term

/-!
# Reading shader expressions

A recursive-descent reader for the grammar of `Term`: one function per level of binding,
loosest first, each reading the next tighter level for its operands. Additive and
multiplicative chains are read operand by operand and build left-nested trees, so
`a - b - c` is `(a - b) - c`. A comparison is read only as the condition of a `select`.

Each function returns the tree it read and the tokens after it. The functions call each other
on the rest of their input, so where a call reads tokens left over by an earlier one, the
reader checks that the rest is shorter: that check is what ends the recursion, and it always
holds, since every tree takes at least one token.

Results:
* `parseAt`, `parse`: the reader of one precedence level, and of a whole text.
* `parseAt_tokens`: a well-formed tree is read back from its own tokens, whatever follows it
  that cannot continue it.
* `parse_of_lex`: a text whose tokens are those of a well-formed tree reads as that tree.
-/

namespace FormulaShader

def Precedence.next : Precedence → Precedence
  | .additive => .multiplicative
  | .multiplicative => .unary
  | .unary => .atom
  | .atom => .atom

theorem Precedence.rank_le_three (p : Precedence) : p.rank ≤ 3 := by
  cases p <;> simp [Precedence.rank]

theorem Precedence.rank_inj {p q : Precedence} (h : p.rank = q.rank) : p = q := by
  cases p <;> cases q <;> simp_all [Precedence.rank]

theorem Precedence.rank_next {p : Precedence} (h : p ≠ .atom) : p.next.rank = p.rank + 1 := by
  cases p <;> simp_all [Precedence.next, Precedence.rank]

theorem Precedence.rank_le_next (p : Precedence) : p.rank ≤ p.next.rank := by
  cases p <;> simp [Precedence.next, Precedence.rank]

end FormulaShader

namespace FormulaShader.Wgsl

mutual

/-- Reads an expression that binds at least as tightly as `p`. -/
def parseAt : Precedence → List Token → Option (Term × List Token)
  | .additive, ts =>
    match parseAt .multiplicative ts with
    | some (t, r) => if r.length ≤ ts.length then chainTail .additive t r else none
    | none => none
  | .multiplicative, ts =>
    match parseAt .unary ts with
    | some (t, r) => if r.length ≤ ts.length then chainTail .multiplicative t r else none
    | none => none
  | .unary, .minus :: ts => (parseAt .unary ts).map fun (t, r) => (.neg t, r)
  | .unary, ts => parseAt .atom ts
  | .atom, ts =>
    match parsePrimary ts with
    | some (t, r) => if r.length ≤ ts.length then accesses t r else none
    | none => none
termination_by p ts => 16 * ts.length + 3 * (3 - p.rank) + 2
decreasing_by all_goals simp only [Precedence.rank, List.length_cons] at *; omega

/-- Reads the operators of level `p` and their operands after the chain `acc`. -/
def chainTail (p : Precedence) (acc : Term) : List Token → Option (Term × List Token)
  | [] => some (acc, [])
  | tok :: ts =>
    match tok.binOp? with
    | some op =>
      if op.prec = p then
        match parseAt p.next ts with
        | some (t, r) => if r.length ≤ ts.length then chainTail p (.bin op acc t) r else none
        | none => none
      else some (acc, tok :: ts)
    | none => some (acc, tok :: ts)
termination_by ts => 16 * ts.length + 3 * (3 - p.rank) + 1
decreasing_by all_goals simp only [List.length_cons] at *; omega

/-- Reads a number, a name, a call, a `select` or a parenthesized expression. -/
def parsePrimary : List Token → Option (Term × List Token)
  | .number s :: r => if validNumeral s then some (.number s, r) else none
  | .ident "select" :: .lparen :: ts => parseSelect ts
  | .ident f :: .lparen :: ts => (parseArgs ts).map fun (args, r) => (.call f args, r)
  | .ident x :: r => some (.ident x, r)
  | .lparen :: ts =>
    match parseAt .additive ts with
    | some (t, .rparen :: r) => some (.paren t, r)
    | _ => none
  | _ => none
termination_by ts => 16 * ts.length + 1
decreasing_by all_goals simp only [List.length_cons] at *; omega

/-- Reads member accesses and indices after the atom `t`. -/
def accesses (t : Term) : List Token → Option (Term × List Token)
  | .dot :: .ident f :: r => accesses (.member t f) r
  | .lbracket :: ts =>
    match parseAt .additive ts with
    | some (i, .rbracket :: r) => if r.length ≤ ts.length then accesses (.index t i) r else none
    | _ => none
  | ts => some (t, ts)
termination_by ts => 16 * ts.length
decreasing_by all_goals simp only [List.length_cons] at *; omega

def parseArgs : List Token → Option (List Term × List Token)
  | .rparen :: r => some ([], r)
  | ts => parseArgList ts
termination_by ts => 16 * ts.length + 14

def parseArgList (ts : List Token) : Option (List Term × List Token) :=
  match parseAt .additive ts with
  | some (a, .comma :: r) =>
    if r.length < ts.length then (parseArgList r).map fun (as, r') => (a :: as, r') else none
  | some (a, .rparen :: r) => some ([a], r)
  | _ => none
termination_by 16 * ts.length + 13
decreasing_by all_goals omega

/-- Reads `onFalse, onTrue, (lhs op rhs))` after `select(`. -/
def parseSelect (ts : List Token) : Option (Term × List Token) :=
  match parseAt .additive ts with
  | some (f, .comma :: r₁) =>
    if r₁.length < ts.length then
      match parseAt .additive r₁ with
      | some (t, .comma :: .lparen :: r₂) =>
        if r₂.length < ts.length then
          match parseAt .additive r₂ with
          | some (l, .compare op :: r₃) =>
            if r₃.length < ts.length then
              match parseAt .additive r₃ with
              | some (r, .rparen :: .rparen :: r₄) => some (.select f t op l r, r₄)
              | _ => none
            else none
          | _ => none
        else none
      | _ => none
    else none
  | _ => none
termination_by 16 * ts.length + 13
decreasing_by all_goals omega

end

/-- Reads a whole text as one expression. -/
def parse (s : String) : Option Term :=
  match parseAt .additive (lex s.toList) with
  | some (t, []) => some t
  | _ => none


/-! ## One step of each reader -/

section Steps

variable {ts r rest : List Token} {t acc : Term}

theorem parseAt_of_next {p : Precedence} (hp : p = .additive ∨ p = .multiplicative)
    (h : parseAt p.next ts = some (t, r)) (hr : r.length ≤ ts.length) :
    parseAt p ts = chainTail p t r := by
  rcases hp with rfl | rfl
  · rw [parseAt]; simp only [Precedence.next] at h; simp [h, hr]
  · rw [parseAt]; simp only [Precedence.next] at h; simp [h, hr]

theorem parseAt_unary_minus : parseAt .unary (.minus :: ts) =
    (parseAt .unary ts).map fun (t, r) => (.neg t, r) :=
  parseAt.eq_3 ts

theorem parseAt_unary_of_head (h : ts.head? ≠ some .minus) :
    parseAt .unary ts = parseAt .atom ts :=
  parseAt.eq_4 ts fun ts' hts => h (by rw [hts]; rfl)

theorem parseAt_atom_of_primary (h : parsePrimary ts = some (t, r)) (hr : r.length ≤ ts.length) :
    parseAt .atom ts = accesses t r := by
  rw [parseAt]; simp [h, hr]

theorem chainTail_op {p : Precedence} {op : BinOp} (hop : op.prec = p)
    (h : parseAt p.next ts = some (t, r)) (hr : r.length ≤ ts.length) :
    chainTail p acc (op.token :: ts) = chainTail p (.bin op acc t) r := by
  rw [chainTail]; simp [hop, h, hr]

theorem chainTail_stop {p : Precedence}
    (h : ∀ tok ∈ rest.head?, ∀ op, tok.binOp? = some op → op.prec ≠ p) :
    chainTail p acc rest = some (acc, rest) := by
  cases rest with
  | nil => rw [chainTail]
  | cons tok ts =>
    rw [chainTail]
    cases hop : tok.binOp? with
    | none => rfl
    | some op => simp [h tok rfl op hop]

theorem accesses_member (f : String) : accesses t (.dot :: .ident f :: r) = accesses (.member t f) r := by
  rw [accesses]

theorem accesses_index {i : Term} (h : parseAt .additive ts = some (i, .rbracket :: r))
    (hr : r.length ≤ ts.length) : accesses t (.lbracket :: ts) = accesses (.index t i) r := by
  rw [accesses]; simp [h, hr]

theorem accesses_stop (hdot : rest.head? ≠ some .dot) (hbracket : rest.head? ≠ some .lbracket) :
    accesses t rest = some (t, rest) :=
  accesses.eq_3 t rest (fun _ _ h => hdot (by rw [h]; rfl)) (fun _ h => hbracket (by rw [h]; rfl))

theorem parsePrimary_number {s : List Char} (h : validNumeral s = true) :
    parsePrimary (.number s :: r) = some (.number s, r) := by
  rw [parsePrimary]; simp [h]

theorem parsePrimary_ident {x : String} (h : r.head? ≠ some .lparen) :
    parsePrimary (.ident x :: r) = some (.ident x, r) :=
  parsePrimary.eq_4 x r (fun _ hr _ => h (by rw [hr]; rfl)) (fun _ hr => h (by rw [hr]; rfl))

theorem parsePrimary_call {f : String} (hf : f ≠ "select") :
    parsePrimary (.ident f :: .lparen :: ts) =
      (parseArgs ts).map fun (args, r) => (.call f args, r) :=
  parsePrimary.eq_3 f ts hf

theorem parsePrimary_select : parsePrimary (.ident "select" :: .lparen :: ts) = parseSelect ts :=
  parsePrimary.eq_2 ts

theorem parsePrimary_paren (h : parseAt .additive ts = some (t, .rparen :: r)) :
    parsePrimary (.lparen :: ts) = some (.paren t, r) := by
  rw [parsePrimary]; simp [h]

theorem parseArgs_rparen : parseArgs (.rparen :: r) = some ([], r) := by
  rw [parseArgs]

theorem parseArgs_of_head (h : ts.head? ≠ some .rparen) : parseArgs ts = parseArgList ts :=
  parseArgs.eq_2 ts fun _ hts => h (by rw [hts]; rfl)

theorem parseArgList_comma {a : Term} (h : parseAt .additive ts = some (a, .comma :: r))
    (hr : r.length < ts.length) :
    parseArgList ts = (parseArgList r).map fun (as, r') => (a :: as, r') := by
  rw [parseArgList]; simp [h, hr]

theorem parseArgList_rparen {a : Term} (h : parseAt .additive ts = some (a, .rparen :: r)) :
    parseArgList ts = some ([a], r) := by
  rw [parseArgList]; simp [h]

theorem parseSelect_eq {f u l v : Term} {op : CompareOp} {r₁ r₂ r₃ r₄ : List Token}
    (hf : parseAt .additive ts = some (f, .comma :: r₁)) (h₁ : r₁.length < ts.length)
    (hu : parseAt .additive r₁ = some (u, .comma :: .lparen :: r₂)) (h₂ : r₂.length < ts.length)
    (hl : parseAt .additive r₂ = some (l, .compare op :: r₃)) (h₃ : r₃.length < ts.length)
    (hv : parseAt .additive r₃ = some (v, .rparen :: .rparen :: r₄)) :
    parseSelect ts = some (.select f u op l v, r₄) := by
  rw [parseSelect]; simp [hf, h₁, hu, h₂, hl, h₃, hv]

end Steps


theorem BinOp.prec_ne_atom (op : BinOp) : op.prec ≠ .atom := by
  cases op <;> simp [BinOp.prec]

theorem BinOp.prec_ne_unary (op : BinOp) : op.prec ≠ .unary := by
  cases op <;> simp [BinOp.prec]

/-! ## Reading back what is written -/

/-- The token at the front of `rest`, if any, continues no expression whose last operand binds
at least as tightly as `p`: it is no access, no call, and no operator of level `p` or a
tighter one. -/
def Ends (p : Precedence) (rest : List Token) : Prop :=
  ∀ tok ∈ rest.head?, tok ≠ .dot ∧ tok ≠ .lbracket ∧ tok ≠ .lparen ∧
    ∀ op, tok.binOp? = some op → op.prec.rank < p.rank

section Ends

variable {p q : Precedence} {rest r : List Token}

theorem Ends.mono (h : Ends p rest) (hpq : p.rank ≤ q.rank) : Ends q rest := fun tok htok =>
  let ⟨hdot, hbracket, hparen, hop⟩ := h tok htok
  ⟨hdot, hbracket, hparen, fun op hto => lt_of_lt_of_le (hop op hto) hpq⟩

theorem Ends.not_op (h : Ends p rest) :
    ∀ tok ∈ rest.head?, ∀ op, tok.binOp? = some op → op.prec ≠ p := by
  intro tok htok op hop heq
  have hlt := (h tok htok).2.2.2 op hop
  rw [heq] at hlt
  exact lt_irrefl _ hlt

theorem ends_nil : Ends p [] := fun _ h => absurd h (by simp)

theorem ends_closing {tok : Token}
    (htok : tok = .comma ∨ tok = .rparen ∨ tok = .rbracket ∨ ∃ op, tok = .compare op) :
    Ends p (tok :: r) := by
  intro t ht
  obtain rfl : t = tok := (Option.mem_some_iff.1 ht).symm
  rcases htok with rfl | rfl | rfl | ⟨c, rfl⟩
  all_goals exact ⟨by simp, by simp, by simp, fun op hop => by simp [Token.binOp?] at hop⟩

theorem ends_op {op : BinOp} (h : op.prec.rank < p.rank) : Ends p (op.token :: r) := by
  intro t ht
  obtain rfl : t = op.token := (Option.mem_some_iff.1 ht).symm
  refine ⟨by cases op <;> simp [BinOp.token], by cases op <;> simp [BinOp.token],
    by cases op <;> simp [BinOp.token], fun op' hop => ?_⟩
  rw [binOp?_token, Option.some.injEq] at hop
  exact hop ▸ h

end Ends

/-- Reading at level `p` from a tree's tokens gives the tree as the first operand, and the
reader of `p` goes on after it. -/
def ReadsAt (t : Term) (p : Precedence) : Prop :=
  ∀ rest, Ends p.next rest → parseAt p (t.tokens ++ rest) = chainTail p t rest

section ReadsAt

variable {t : Term} {p : Precedence} {rest : List Token}

theorem ReadsAt.full (h : ReadsAt t p) (hr : Ends p rest) :
    parseAt p (t.tokens ++ rest) = some (t, rest) := by
  rw [h rest (hr.mono p.rank_le_next)]
  exact chainTail_stop hr.not_op

/-- A tree read one level looser than its own: the chain of that level starts with the tree
and stops after it. -/
theorem readsAt_step (hp : p.rank < t.cat.rank)
    (hhead : t.cat = .atom → t.tokens.head? ≠ some .minus) (h : ReadsAt t p.next) :
    ReadsAt t p := by
  intro rest hrest
  have hnext : parseAt p.next (t.tokens ++ rest) = some (t, rest) := h.full hrest
  have hlen : rest.length ≤ (t.tokens ++ rest).length := by simp
  cases p with
  | additive => exact parseAt_of_next (.inl rfl) hnext hlen
  | multiplicative => exact parseAt_of_next (.inr rfl) hnext hlen
  | unary =>
    -- only an atom binds tighter than a leading minus
    have hatom : t.cat = .atom := by
      cases hc : t.cat <;> simp_all [Precedence.rank]
    rw [parseAt_unary_of_head (by rw [Term.head_tokens_append]; exact hhead hatom),
      chainTail_stop fun _ _ op _ => op.prec_ne_unary]
    exact hnext
  | atom =>
    have := t.cat.rank_le_three
    change 3 < t.cat.rank at hp
    omega

theorem readsAt_of_cat (hhead : t.cat = .atom → t.tokens.head? ≠ some .minus)
    (hbase : ReadsAt t t.cat) : ∀ p, p.rank ≤ t.cat.rank → ReadsAt t p := by
  intro p hp
  induction hk : t.cat.rank - p.rank generalizing p with
  | zero =>
    rw [Precedence.rank_inj (by omega : p.rank = t.cat.rank)]
    exact hbase
  | succ k ih =>
    have hne : p ≠ .atom := by
      rintro rfl
      have := t.cat.rank_le_three
      change t.cat.rank - 3 = k + 1 at hk
      omega
    have hnext := Precedence.rank_next hne
    exact readsAt_step (by omega) hhead (ih p.next (by omega) (by omega))

end ReadsAt

/-- What the tokens of a tree read as: the tree, at its own level and every looser one, and,
for an atom, the atom followed by whatever accesses come after it. -/
structure ReadsBack (t : Term) : Prop where
  atom : t.cat = .atom → ∀ rest, rest.head? ≠ some .lparen →
    parseAt .atom (t.tokens ++ rest) = accesses t rest
  levels : ∀ p, p.rank ≤ t.cat.rank → ReadsAt t p

section ReadsBack

variable {t : Term} {p : Precedence} {rest : List Token}

theorem ReadsBack.full (h : ReadsBack t) (hp : p.rank ≤ t.cat.rank) (hr : Ends p rest) :
    parseAt p (t.tokens ++ rest) = some (t, rest) :=
  (h.levels p hp).full hr

theorem readsBack_atom (hwf : t.WF) (hcat : t.cat = .atom)
    (h : ∀ rest, rest.head? ≠ some .lparen → parseAt .atom (t.tokens ++ rest) = accesses t rest) :
    ReadsBack t := by
  refine ⟨fun _ => h, readsAt_of_cat (fun _ => t.head_tokens_ne_minus hwf hcat) ?_⟩
  rw [hcat]
  intro rest hrest
  have hparen : rest.head? ≠ some .lparen := fun hh => (hrest _ hh).2.2.1 rfl
  have hdot : rest.head? ≠ some .dot := fun hh => (hrest _ hh).1 rfl
  have hbracket : rest.head? ≠ some .lbracket := fun hh => (hrest _ hh).2.1 rfl
  rw [h rest hparen, accesses_stop hdot hbracket,
    chainTail_stop fun _ _ op _ => op.prec_ne_atom]

end ReadsBack

mutual

/-- Every well-formed tree reads back from its tokens. The induction follows the tree; each
case reads the tree at its own level, and `readsAt_of_cat` carries that to looser levels. -/
theorem readsBack : ∀ t : Term, t.WF → ReadsBack t
  | .number s, h =>
    readsBack_atom h rfl fun _ _ => parseAt_atom_of_primary (parsePrimary_number h) (by simp)
  | .ident x, h =>
    readsBack_atom h rfl fun _ hr => parseAt_atom_of_primary (parsePrimary_ident hr) (by simp)
  | .member b f, h => by
    have hb := readsBack b h.1
    refine readsBack_atom h rfl fun rest _ => ?_
    simp only [Term.tokens, List.append_assoc, List.cons_append, List.nil_append]
    rw [hb.atom h.2 _ (by simp), accesses_member]
  | .index b i, h => by
    have hb := readsBack b h.1
    have hi := readsBack i h.2.2
    refine readsBack_atom h rfl fun rest _ => ?_
    simp only [Term.tokens, List.append_assoc, List.cons_append, List.nil_append]
    rw [hb.atom h.2.1 _ (by simp),
      accesses_index (hi.full (Nat.zero_le _) (ends_closing (.inr (.inr (.inl rfl)))))
        (by simp; omega)]
  | .call f args, h => by
    have hargs := readsArgs args h.2
    refine readsBack_atom h rfl fun rest _ => ?_
    simp only [Term.tokens, List.append_assoc, List.cons_append, List.nil_append]
    refine parseAt_atom_of_primary ?_ (by simp; omega)
    rw [parsePrimary_call h.1, hargs rest]
    rfl
  | .select f u op l v, h => by
    obtain ⟨hf, hu, hl, hv⟩ := h
    have hfr := readsBack f hf
    have hur := readsBack u hu
    have hlr := readsBack l hl
    have hvr := readsBack v hv
    refine readsBack_atom ⟨hf, hu, hl, hv⟩ rfl fun rest _ => ?_
    simp only [Term.tokens, List.append_assoc, List.cons_append, List.nil_append]
    refine parseAt_atom_of_primary ?_ (by simp; omega)
    rw [parsePrimary_select]
    -- the four operands, each ended by the token after it
    exact parseSelect_eq (hfr.full (Nat.zero_le _) (ends_closing (.inl rfl))) (by simp; omega)
      (hur.full (Nat.zero_le _) (ends_closing (.inl rfl))) (by simp; omega)
      (hlr.full (Nat.zero_le _) (ends_closing (.inr (.inr (.inr ⟨op, rfl⟩))))) (by simp; omega)
      (hvr.full (Nat.zero_le _) (ends_closing (.inr (.inl rfl))))
  | .paren u, h => by
    have hu := readsBack u h
    refine readsBack_atom h rfl fun rest _ => ?_
    simp only [Term.tokens, List.append_assoc, List.cons_append, List.nil_append]
    exact parseAt_atom_of_primary
      (parsePrimary_paren (hu.full (Nat.zero_le _) (ends_closing (.inr (.inl rfl)))))
      (by simp; omega)
  | .neg u, h => by
    have hu := readsBack u h.1
    have hcat : (Term.neg u).cat = .unary := rfl
    refine ⟨fun hc => absurd (hcat ▸ hc) (by decide),
      readsAt_of_cat (fun hc => absurd (hcat ▸ hc) (by decide)) ?_⟩
    intro rest hrest
    rw [hcat] at hrest ⊢
    simp only [Term.tokens, List.cons_append]
    rw [parseAt_unary_minus, hu.levels .unary h.2 rest hrest,
      chainTail_stop fun _ _ op _ => op.prec_ne_unary,
      chainTail_stop fun _ _ op _ => op.prec_ne_unary]
    rfl
  | .bin op l v, h => by
    obtain ⟨hl, hv, hlp, hvp⟩ := h
    have hlr := readsBack l hl
    have hvr := readsBack v hv
    have hcat : (Term.bin op l v).cat = op.prec := rfl
    have hnext := Precedence.rank_next op.prec_ne_atom
    refine ⟨fun hc => absurd (hcat ▸ hc) op.prec_ne_atom,
      readsAt_of_cat (fun hc => absurd (hcat ▸ hc) op.prec_ne_atom) ?_⟩
    intro rest hrest
    rw [hcat] at hrest ⊢
    simp only [Term.tokens, List.append_assoc, List.cons_append]
    -- the left operand is a chain of the same level, which the operator continues
    rw [hlr.levels op.prec hlp _ (ends_op (by omega)),
      chainTail_op rfl (hvr.full (by omega) hrest) (by simp)]

theorem readsArgs : ∀ ts : List Term, Term.WFAll ts →
    ∀ rest, parseArgs (Term.argTokens ts ++ .rparen :: rest) = some (ts, rest)
  | [], _, _ => parseArgs_rparen
  | t :: ts, h, rest => by
    have ht := readsBack t h.1
    rw [Term.argTokens, parseArgs_of_head (by
      rw [List.append_assoc, Term.head_tokens_append]; exact t.head_tokens_ne_rparen)]
    exact readsArgList t ts ht h.2 rest

theorem readsArgList : ∀ (t : Term) (ts : List Term), ReadsBack t → Term.WFAll ts →
    ∀ rest, parseArgList (t.tokens ++ Term.moreArgTokens ts ++ .rparen :: rest) = some (t :: ts, rest)
  | t, [], ht, _, rest => by
    rw [Term.moreArgTokens, List.append_nil]
    exact parseArgList_rparen (ht.full (Nat.zero_le _) (ends_closing (.inr (.inl rfl))))
  | t, t' :: ts, ht, h, rest => by
    simp only [Term.moreArgTokens, List.append_assoc, List.cons_append]
    have hmore := readsArgList t' ts (readsBack t' h.1) h.2 rest
    rw [List.append_assoc] at hmore
    rw [parseArgList_comma (ht.full (Nat.zero_le _) (ends_closing (.inl rfl))) (by simp; omega),
      hmore]
    rfl

end

/-- A well-formed tree is read back from its tokens at its own level and every looser one,
whatever follows that ends it. -/
theorem parseAt_tokens {t : Term} (h : t.WF) {p : Precedence} (hp : p.rank ≤ t.cat.rank)
    {rest : List Token} (hr : Ends p rest) : parseAt p (t.tokens ++ rest) = some (t, rest) :=
  (readsBack t h).full hp hr

/-- A text whose tokens are those of a well-formed tree reads as that tree. -/
theorem parse_of_lex {s : String} {t : Term} (h : t.WF) (hlex : lex s.toList = t.tokens) :
    parse s = some t := by
  have hread := parseAt_tokens h (Nat.zero_le _) (@ends_nil .additive)
  rw [List.append_nil] at hread
  rw [parse, hlex, hread]

end FormulaShader.Wgsl
