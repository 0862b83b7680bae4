import FormulaShader.Expr.MathJson
import FormulaShader.Proofs.Binary.DoubleFields

/-!
# Reading back what MathJSON writing produced

Writing a tree and reading it back gives the tree again, node for node, with two exceptions.
A foreign node is written as an `Error` application and comes back as one, and an identifier
whose name is quoted as `'...'` comes back as a string, that is as a foreign node. A literal
comes back as the same double, except that every NaN comes back as the quiet NaN and `-0.0`
as `+0.0`: the writer spells all NaNs alike, and writes a zero as the integer `0`.

The literal case is the whole difficulty. A NaN and an infinity go through the long form
`{"num": ...}`; an integral double below `9 · 10^15` in magnitude through its integer part,
which reads back as the nearest double, that is as itself (`ofInt_truncate`); any other
finite double as itself.

Reading never makes a quoted identifier, so a decoded tree with no foreign node reads back
to the same JSON after a second write: writing cannot tell a literal from its canonical double.

Results:
* `Binary64.canonical`, `Expr.canonicalLiterals`: the doubles and trees reading gives back.
* `ofJson_toJson_literal`: a written literal reads back as its canonical double.
* `ofJson_toJson_of_plain`: a tree with no foreign node and no quoted identifier reads back
  as itself with its literals made canonical.
* `identifierList_ofJson`: a decoded tree has no quoted identifier.
* `toJson_canonicalLiterals`: writing a tree and writing its canonical form agree.
* `mathJson_read_after_write`: both round trips.
-/

namespace FormulaShader

namespace Binary64

/-- The double a written literal reads back as: any NaN is the quiet NaN, and a zero of
either sign is `+0.0`. -/
def canonical (x : Binary64) : Binary64 :=
  if x.isNaN then nan else if x.isZero then zero else x

theorem isNaN_eq_false_of_isZero {x : Binary64} (hz : x.isZero) : x.isNaN = false := by
  unfold isZero at hz
  unfold isNaN
  split at hz <;> simp_all

theorem isFinite_of_isZero {x : Binary64} (hz : x.isZero) : x.isFinite := by
  unfold isZero at hz
  unfold isFinite
  split at hz <;> simp_all

theorem canonical_of_isNaN {x : Binary64} (hn : x.isNaN) : x.canonical = nan := by
  simp [canonical, hn]

theorem canonical_of_isZero {x : Binary64} (hz : x.isZero) : x.canonical = zero := by
  simp [canonical, hz, isNaN_eq_false_of_isZero hz]

theorem canonical_of_ne {x : Binary64} (hn : x.isNaN = false) (hz : x.isZero = false) :
    x.canonical = x := by
  simp [canonical, hn, hz]

theorem ofNat_zero : ofNat 0 = zero := rfl

theorem zero_isZero : zero.isZero := rfl

theorem nan_isNaN : nan.isNaN := rfl

theorem ofNat_toNat {n : Int} (h : ¬ n < 0) : ofNat n.toNat = ofInt n := by
  have habs : n.natAbs = n.toNat := by omega
  simp [ofNat, ofInt, h, habs]

end Binary64

namespace Expr

open Binary64

/-- A name written `'...'`, which MathJSON reads as a string and not as a symbol. -/
def QuotedName (s : String) : Prop := s.utf8ByteSize ≥ 2 ∧ s.front = '\'' ∧ s.back = '\''

instance : DecidablePred QuotedName := fun s =>
  inferInstanceAs (Decidable (s.utf8ByteSize ≥ 2 ∧ s.front = '\'' ∧ s.back = '\''))

theorem ofSymbol_of_not_quoted {s : String} (h : ¬ QuotedName s) : ofSymbol s = .identifier s :=
  if_neg h

mutual

def nodes : Expr → List Expr
  | .application head args => .application head args :: nodesAll args
  | e => [e]

def nodesAll : List Expr → List Expr
  | [] => []
  | e :: es => e.nodes ++ nodesAll es

end

def isForeign : Expr → Bool
  | .foreign _ => true
  | _ => false

mutual

/-- The tree with each literal replaced by its canonical double. -/
def canonicalLiterals : Expr → Expr
  | .literal x => .literal x.canonical
  | .application head args => .application head (canonicalLiteralsAll args)
  | e => e

def canonicalLiteralsAll : List Expr → List Expr
  | [] => []
  | e :: es => e.canonicalLiterals :: canonicalLiteralsAll es

end

/-! ## Literals -/

theorem toJson_literal_of_isZero {x : Binary64} (hz : x.isZero) :
    toJson (.literal x) = .number (.unsigned 0) := by
  obtain ⟨hi, hb, ht⟩ := isZero_integral hz
  simp [toJson, isNaN_eq_false_of_isZero hz, isFinite_of_isZero hz, hi, hb, ht]

/-- A double that is not a NaN, not an infinity, not a zero and not a small integer is
written as itself. -/
theorem toJson_literal_of_double {x : Binary64} (hn : x.isNaN = false) (hf : x.isFinite)
    (hi : (x.isIntegral && x.magnitudeBelow 9000000000000000 1) = false) :
    toJson (.literal x) = .number (.double x) := by
  simp [toJson, hn, hf, hi]

theorem ofJson_toJson_literal (x : Binary64) :
    ofJson (toJson (.literal x)) = .literal x.canonical := by
  by_cases hn : x.isNaN
  · rw [canonical_of_isNaN hn]
    simp [toJson, hn]
    rfl
  by_cases hz : x.isZero
  · rw [toJson_literal_of_isZero hz, canonical_of_isZero hz]
    rfl
  simp only [Bool.not_eq_true] at hn hz
  rw [canonical_of_ne hn hz]
  cases hf : x.isFinite
  · -- an infinity goes through the long form and is rebuilt from its sign
    have hx := eq_infinity_of_not_finite hn hf
    cases hs : x.signBitSet
    · rw [hs] at hx
      simp [toJson, hn, hf, hs]
      rw [hx]
      rfl
    · rw [hs] at hx
      simp [toJson, hn, hf, hs]
      rw [hx]
      rfl
  · cases hi : (x.isIntegral && x.magnitudeBelow 9000000000000000 1)
    · rw [toJson_literal_of_double hn hf hi]
      rfl
    · -- a small integer goes through its integer part and rounds back to itself
      obtain ⟨hint, hb⟩ := Bool.and_eq_true_iff.mp hi
      have hround : ofInt x.truncate = x := ofInt_truncate hint hb hz
      by_cases hneg : x.truncate < 0
      · simp [toJson, hn, hf, hi, hneg, ofJson, JsonNumber.toBinary64, hround]
      · simp [toJson, hn, hf, hi, hneg, ofJson, JsonNumber.toBinary64, ofNat_toNat hneg, hround]

theorem toJson_literal_canonical (x : Binary64) :
    toJson (.literal x.canonical) = toJson (.literal x) := by
  by_cases hn : x.isNaN
  · simp [canonical_of_isNaN hn, toJson, hn, nan_isNaN]
  by_cases hz : x.isZero
  · rw [canonical_of_isZero hz, toJson_literal_of_isZero hz,
      toJson_literal_of_isZero zero_isZero]
  simp only [Bool.not_eq_true] at hn hz
  rw [canonical_of_ne hn hz]

/-! ## Trees -/

@[simp] theorem nodes_application (head : String) (args : List Expr) :
    (Expr.application head args).nodes = .application head args :: nodesAll args := by
  simp [nodes]

@[simp] theorem nodesAll_cons (e : Expr) (es : List Expr) :
    nodesAll (e :: es) = e.nodes ++ nodesAll es := by
  simp [nodesAll]

mutual

/-- A tree with no foreign node and no quoted identifier reads back as itself, its literals
made canonical. The induction follows the tree and its operand list. -/
theorem ofJson_toJson_of_plain : ∀ e : Expr, (∀ n ∈ e.nodes, n.isForeign = false) →
    (∀ name ∈ e.identifierList, ¬ QuotedName name) → ofJson e.toJson = e.canonicalLiterals
  | .literal x, _, _ => by
    rw [ofJson_toJson_literal, canonicalLiterals]
  | .identifier name, _, hq => by
    have hname : ¬ QuotedName name := hq name (by simp [identifierList])
    simp [toJson, ofJson, ofSymbol_of_not_quoted hname, canonicalLiterals]
  | .application head args, hf, hq => by
    have hargs := ofList_toJsonList_of_plain args (fun n hn => hf n (by simp [hn]))
      (fun name hn => hq name (by simpa [identifierList] using hn))
    simp [toJson, ofJson, ofItems, canonicalLiterals, hargs]
  | .foreign d, hf, _ => by
    simp [nodes, isForeign] at hf

theorem ofList_toJsonList_of_plain : ∀ es : List Expr, (∀ n ∈ nodesAll es, n.isForeign = false) →
    (∀ name ∈ identifierListAll es, ¬ QuotedName name) →
      ofList (toJsonList es) = canonicalLiteralsAll es
  | [], _, _ => by
    simp [toJsonList, ofList, canonicalLiteralsAll]
  | e :: es, hf, hq => by
    simp only [nodesAll_cons, List.mem_append] at hf
    simp only [identifierListAll, List.mem_append] at hq
    have he := ofJson_toJson_of_plain e (fun n hn => hf n (.inl hn)) (fun n hn => hq n (.inl hn))
    have hes := ofList_toJsonList_of_plain es (fun n hn => hf n (.inr hn))
      (fun n hn => hq n (.inr hn))
    simp [toJsonList, ofList, canonicalLiteralsAll, he, hes]

end

/-! ## Reading makes no quoted identifier -/

def LongForms.Holds (P : Expr → Prop) (f : LongForms) : Prop :=
  (∀ e, f.num = some e → P e) ∧ (∀ e, f.sym = some e → P e) ∧ (∀ e, f.fn = some e → P e)

theorem LongForms.pick_of_holds {P : Expr → Prop} {f : LongForms}
    (hforeign : ∀ d, P (.foreign d)) (h : f.Holds P) : P f.pick := by
  obtain ⟨hnum, hsym, hfn⟩ := h
  unfold pick
  cases hn : f.num with
  | some e => exact hnum e hn
  | none =>
    cases hs : f.sym with
    | some e => exact hsym e hs
    | none =>
      cases hg : f.fn with
      | some e => exact hfn e hg
      | none =>
        simp only
        split
        · exact hforeign _
        · split <;> exact hforeign _

theorem identifierList_ofSymbol (s : String) :
    ∀ name ∈ (ofSymbol s).identifierList, ¬ QuotedName name := by
  intro name hname
  unfold ofSymbol at hname
  split at hname
  · simp [identifierList] at hname
  · simp only [identifierList, List.mem_singleton] at hname
    subst hname
    assumption

theorem identifierList_ofNumberField (v : JsonValue) : (ofNumberField v).identifierList = [] := by
  unfold ofNumberField
  split
  · split <;> rfl
  all_goals rfl

mutual

/-- A decoded tree has no identifier with a quoted name: reading turns such a string into a
foreign node. The induction runs over the JSON value, its arrays and its objects' fields. -/
theorem identifierList_ofJson : ∀ v : JsonValue,
    ∀ name ∈ (ofJson v).identifierList, ¬ QuotedName name
  | .number _ => by simp [ofJson, identifierList]
  | .string s => by simpa [ofJson] using identifierList_ofSymbol s
  | .array items => by simpa [ofJson] using identifierList_ofItems items
  | .object fields => by
    simp only [ofJson]
    exact LongForms.pick_of_holds (fun _ => by simp [identifierList]) (longForms_holds fields)
  | .bool _ => by simp [ofJson, identifierList]
  | .null => by simp [ofJson, identifierList]

theorem identifierList_ofItems : ∀ items : List JsonValue,
    ∀ name ∈ (ofItems items).identifierList, ¬ QuotedName name
  | [] => by simp [ofItems, identifierList]
  | v :: args => by
    cases v with
    | string head =>
      simpa [ofItems, identifierList] using identifierListAll_ofList args
    | _ => simp [ofItems, identifierList]

theorem identifierListAll_ofList : ∀ vs : List JsonValue,
    ∀ name ∈ identifierListAll (ofList vs), ¬ QuotedName name
  | [] => by simp [ofList, identifierListAll]
  | v :: vs => by
    have hv := identifierList_ofJson v
    have hvs := identifierListAll_ofList vs
    intro name hname
    simp only [ofList, identifierListAll, List.mem_append] at hname
    exact hname.elim (hv name) (hvs name)

theorem longForms_holds : ∀ fields : List (String × JsonValue),
    (longForms fields).Holds (fun e => ∀ name ∈ e.identifierList, ¬ QuotedName name)
  | [] => by simp [longForms, LongForms.Holds]
  | (key, v) :: rest => by
    obtain ⟨hnum, hsym, hfn⟩ := longForms_holds rest
    rw [longForms.eq_def]
    dsimp only
    -- each key fills its own long form and keeps the others
    split
    · refine ⟨?_, hsym, hfn⟩
      rintro e ⟨⟩
      simp [identifierList_ofNumberField]
    split
    · refine ⟨hnum, ?_, hfn⟩
      rintro e ⟨⟩
      unfold ofSymbolField
      split
      · exact identifierList_ofSymbol _
      · simp [identifierList]
    split
    · cases v with
      | array items =>
        refine ⟨hnum, hsym, ?_⟩
        rintro e ⟨⟩
        exact identifierList_ofItems items
      | _ =>
        refine ⟨hnum, hsym, ?_⟩
        rintro e ⟨⟩
        simp [identifierList]
    split
    · exact ⟨hnum, hsym, hfn⟩
    split
    · exact ⟨hnum, hsym, hfn⟩
    · exact ⟨hnum, hsym, hfn⟩

end

/-! ## Writing the canonical form -/

mutual

theorem toJson_canonicalLiterals : ∀ e : Expr, e.canonicalLiterals.toJson = e.toJson
  | .literal x => by rw [canonicalLiterals, toJson_literal_canonical]
  | .identifier _ => by simp [canonicalLiterals]
  | .application head args => by
    simp [canonicalLiterals, toJson, toJsonList_canonicalLiteralsAll args]
  | .foreign _ => by simp [canonicalLiterals]

theorem toJsonList_canonicalLiteralsAll : ∀ es : List Expr,
    toJsonList (canonicalLiteralsAll es) = toJsonList es
  | [] => by simp [canonicalLiteralsAll]
  | e :: es => by
    simp [canonicalLiteralsAll, toJsonList, toJson_canonicalLiterals e,
      toJsonList_canonicalLiteralsAll es]

end

/-- Reading undoes writing: a tree with no foreign node and no quoted identifier reads back as
itself with its literals made canonical, and so a decoded tree with no foreign node is written
the same after one more write and read. -/
theorem mathJson_read_after_write :
    (∀ e : Expr, (∀ n ∈ e.nodes, n.isForeign = false) →
      (∀ name ∈ e.identifierList, ¬ QuotedName name) → ofJson e.toJson = e.canonicalLiterals) ∧
    ∀ v : JsonValue, (∀ n ∈ (ofJson v).nodes, n.isForeign = false) →
      (ofJson (ofJson v).toJson).toJson = (ofJson v).toJson := by
  refine ⟨ofJson_toJson_of_plain, ?_⟩
  intro v hf
  rw [ofJson_toJson_of_plain (ofJson v) hf (identifierList_ofJson v), toJson_canonicalLiterals]

/-- A negative zero reads back as a positive one, and a NaN long form stays one. -/
theorem negZero_nan_read_after_write :
    ((∀ n ∈ (Expr.application "Divide" [.literal Binary64.zero.neg, .identifier "x"]).nodes,
        n.isForeign = false) ∧
      (∀ name ∈ (Expr.application "Divide" [.literal Binary64.zero.neg, .identifier "x"]).identifierList,
        ¬ QuotedName name) ∧
      ofJson (Expr.application "Divide" [.literal Binary64.zero.neg, .identifier "x"]).toJson =
        (Expr.application "Divide" [.literal Binary64.zero.neg, .identifier "x"]).canonicalLiterals) ∧
    ((∀ n ∈ (ofJson (.array [.string "Multiply", .object [("num", .string "NaN")],
        .number (.double Binary64.zero.neg)])).nodes, n.isForeign = false) ∧
      (ofJson (ofJson (.array [.string "Multiply", .object [("num", .string "NaN")],
        .number (.double Binary64.zero.neg)])).toJson).toJson =
      (ofJson (.array [.string "Multiply", .object [("num", .string "NaN")],
        .number (.double Binary64.zero.neg)])).toJson) := by
  have h1 : ∀ n ∈ (Expr.application "Divide" [.literal Binary64.zero.neg, .identifier "x"]).nodes,
      n.isForeign = false := by decide
  have h2 : ∀ name ∈ (Expr.application "Divide" [.literal Binary64.zero.neg, .identifier "x"]).identifierList,
      ¬ QuotedName name := by decide
  have h3 : ∀ n ∈ (ofJson (.array [.string "Multiply", .object [("num", .string "NaN")],
      .number (.double Binary64.zero.neg)])).nodes, n.isForeign = false := by decide
  exact ⟨⟨h1, h2, mathJson_read_after_write.1 _ h1 h2⟩, h3, mathJson_read_after_write.2 _ h3⟩

end Expr

end FormulaShader
