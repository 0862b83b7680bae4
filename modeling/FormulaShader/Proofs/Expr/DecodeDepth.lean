import FormulaShader.Proofs.Expr.JsonRoundTrip
import FormulaShader.Proofs.Compile.DepthGuard

/-!
# Decoding never deepens a tree

The nesting depth of a JSON value counts a scalar as one level and an array or an object as
one more than its deepest member. Decoding a value into a formula makes an application level
only out of an array, bare or under `fn`; a `num`, `sym` or `fn` object hands on what its
field decodes to and adds no level, and whatever has no formula reading is a leaf. So a
decoded tree is never deeper than the value it came from.

The reader refuses text nested past its limit: it reads a value with a count of levels left
and an array or object only while two are left, its members with one less. Every value it
returns is therefore at most `JsonRead.depthLimit` = 128 levels deep, and so is every tree
`Expr.parse` returns, well inside the compiler's 256. Only a tree built directly can make the
compiler report depth.

The reader's steps are read through `JsonRead.Returns`, a postcondition on what a step
returns when it does not fail, which a bind passes along.

Results:
* `JsonValue.nesting`: the nesting depth of a value.
* `Expr.depth_ofJson`: a decoded tree is at most as deep as its value.
* `Expr.depth_ofJson_object`: an object adds no level to what it holds.
* `JsonRead.value_returns`: a value read with `depth` levels left nests at most `depth` deep.
* `compile_parsed_ne_tooDeep`: a parsed formula never fails to compile for depth.
* `emit_negations_tooDeep`: a tree built directly past the limit does.
* `decoding_never_deepens`: these facts together.
-/

namespace FormulaShader

namespace JsonValue

mutual

/-- Levels of nesting: a scalar is one, an array or an object one more than its deepest
member. -/
def nesting : JsonValue → Nat
  | .array items => 1 + itemsNesting items
  | .object fields => 1 + fieldsNesting fields
  | _ => 1

def itemsNesting : List JsonValue → Nat
  | [] => 0
  | v :: vs => max v.nesting (itemsNesting vs)

def fieldsNesting : List (String × JsonValue) → Nat
  | [] => 0
  | (_, v) :: fs => max v.nesting (fieldsNesting fs)

end

theorem itemsNesting_le {vs : List JsonValue} {n : Nat} (h : ∀ v ∈ vs, v.nesting ≤ n) :
    itemsNesting vs ≤ n := by
  induction vs with
  | nil => simp [itemsNesting]
  | cons v vs ih =>
    simp only [List.mem_cons, forall_eq_or_imp] at h
    simp only [itemsNesting, Nat.max_le]
    exact ⟨h.1, ih h.2⟩

theorem fieldsNesting_le {fs : List (String × JsonValue)} {n : Nat}
    (h : ∀ p ∈ fs, p.2.nesting ≤ n) : fieldsNesting fs ≤ n := by
  induction fs with
  | nil => simp [fieldsNesting]
  | cons p fs ih =>
    obtain ⟨k, v⟩ := p
    simp only [List.mem_cons, forall_eq_or_imp] at h
    simp only [fieldsNesting, Nat.max_le]
    exact ⟨h.1, ih h.2⟩

theorem mem_insertField {key : String} {v : JsonValue} {fs : List (String × JsonValue)}
    {p : String × JsonValue} (h : p ∈ insertField key v fs) : p = (key, v) ∨ p ∈ fs := by
  induction fs with
  | nil => simpa [insertField] using h
  | cons q rest ih =>
    obtain ⟨k, w⟩ := q
    unfold insertField at h
    split at h
    · simpa using h
    · split at h
      · simp only [List.mem_cons] at h ⊢
        rcases h with h | h
        · exact .inl h
        · exact .inr (.inr h)
      · simp only [List.mem_cons] at h ⊢
        rcases h with h | h
        · exact .inr (.inl h)
        · rcases ih h with h' | h'
          · exact .inl h'
          · exact .inr (.inr h')

end JsonValue

/-! ## Decoding -/

namespace Expr

theorem depth_ofSymbol (s : String) : (ofSymbol s).depth = 1 := by
  unfold ofSymbol
  split <;> rfl

theorem depth_ofNumberField (v : JsonValue) : (ofNumberField v).depth = 1 := by
  unfold ofNumberField
  split
  · split <;> rfl
  · rfl
  · rfl

theorem depth_ofSymbolField (v : JsonValue) : (ofSymbolField v).depth = 1 := by
  unfold ofSymbolField
  split
  · exact depth_ofSymbol _
  · rfl

theorem LongForms.Holds.mono {P Q : Expr → Prop} {f : LongForms} (h : f.Holds P)
    (hPQ : ∀ e, P e → Q e) : f.Holds Q :=
  ⟨fun e he => hPQ e (h.1 e he), fun e he => hPQ e (h.2.1 e he), fun e he => hPQ e (h.2.2 e he)⟩

mutual

/-- A decoded tree is at most as deep as its value. The induction runs over the value, its
arrays and its objects' fields; only an array with a string head makes an application. -/
theorem depth_ofJson : ∀ v : JsonValue, (ofJson v).depth ≤ v.nesting
  | .number _ => by simp [ofJson, depth, JsonValue.nesting]
  | .string s => by simp [ofJson, depth_ofSymbol, JsonValue.nesting]
  | .array items => by simpa [ofJson, JsonValue.nesting] using depth_ofItems items
  | .object fields => by
    have h : (ofJson (.object fields)).depth ≤ max 1 (JsonValue.fieldsNesting fields) :=
      LongForms.pick_of_holds (fun _ => by simp [depth]) (longForms_within fields)
    simp only [JsonValue.nesting]
    omega
  | .bool _ => by simp [ofJson, depth, JsonValue.nesting]
  | .null => by simp [ofJson, depth, JsonValue.nesting]

theorem depth_ofItems : ∀ items : List JsonValue,
    (ofItems items).depth ≤ 1 + JsonValue.itemsNesting items
  | [] => by simp [ofItems, depth]
  | v :: args => by
    cases v with
    | string head =>
      have hargs := depthMax_ofList args
      simp only [ofItems, depth_application, JsonValue.itemsNesting]
      omega
    | _ => simp [ofItems, depth]

theorem depthMax_ofList : ∀ vs : List JsonValue,
    depthMax (ofList vs) ≤ JsonValue.itemsNesting vs
  | [] => by simp [ofList, depthMax, JsonValue.itemsNesting]
  | v :: vs => by
    have hv := depth_ofJson v
    have hvs := depthMax_ofList vs
    simp only [ofList, depthMax, JsonValue.itemsNesting]
    omega

/-- The long forms of an object are leaves, or what an array under `fn` decodes to, so none
is deeper than the deepest field value, nor than one level. -/
theorem longForms_within : ∀ fields : List (String × JsonValue),
    (longForms fields).Holds (fun e => e.depth ≤ max 1 (JsonValue.fieldsNesting fields))
  | [] => by simp [longForms, LongForms.Holds]
  | (key, v) :: rest => by
    have hrest := (longForms_within rest).mono
      (Q := fun e => e.depth ≤ max 1 (JsonValue.fieldsNesting ((key, v) :: rest))) fun e he => by
        simp only [JsonValue.fieldsNesting] at he ⊢
        omega
    obtain ⟨hnum, hsym, hfn⟩ := hrest
    rw [longForms.eq_def]
    dsimp only
    -- each key fills its own long form and keeps the others
    split
    · refine ⟨?_, hsym, hfn⟩
      rintro e ⟨⟩
      simp [depth_ofNumberField]
    split
    · refine ⟨hnum, ?_, hfn⟩
      rintro e ⟨⟩
      simp [depth_ofSymbolField]
    split
    · cases v with
      | array items =>
        refine ⟨hnum, hsym, ?_⟩
        rintro e ⟨⟩
        have hitems := depth_ofItems items
        simp only [JsonValue.fieldsNesting, JsonValue.nesting]
        omega
      | _ =>
        refine ⟨hnum, hsym, ?_⟩
        rintro e ⟨⟩
        simp [depth]
    split
    · exact ⟨hnum, hsym, hfn⟩
    split
    · exact ⟨hnum, hsym, hfn⟩
    · exact ⟨hnum, hsym, hfn⟩

end

/-- An object adds no level: it decodes to one of its long forms, or to a leaf. -/
theorem depth_ofJson_object (fields : List (String × JsonValue)) :
    (ofJson (.object fields)).depth ≤ max 1 (JsonValue.fieldsNesting fields) :=
  LongForms.pick_of_holds (fun _ => by simp [depth]) (longForms_within fields)

end Expr

/-! ## Reading -/

namespace JsonRead

/-- Every value the step returns, from any cursor, satisfies `P`; a failed step returns
nothing. -/
def Returns {α : Type} (x : JsonRead α) (P : α → Prop) : Prop :=
  ∀ c a c', x.run.run c = (.ok a, c') → P a

section

variable {α β : Type}

theorem returns_bind {x : JsonRead α} {f : α → JsonRead β} {Q : α → Prop} {P : β → Prop}
    (hx : x.Returns Q) (hf : ∀ a, Q a → (f a).Returns P) : (x >>= f).Returns P := by
  intro c b c' h
  rcases hrun : x.run.run c with ⟨r, c₁⟩
  simp only [ExceptT.run_bind, StateT.run_bind, hrun] at h
  cases r with
  | error e => cases h
  | ok a => exact hf a (hx c a c₁ hrun) c₁ b c' h

theorem returns_bind_any {x : JsonRead α} {f : α → JsonRead β} {P : β → Prop}
    (hf : ∀ a, (f a).Returns P) : (x >>= f).Returns P :=
  returns_bind (Q := fun _ => True) (fun _ _ _ _ => trivial) fun a _ => hf a

theorem returns_pure {a : α} {P : α → Prop} (h : P a) : (pure a : JsonRead α).Returns P := by
  intro c b c' hrun
  cases hrun
  exact h

theorem returns_map {x : JsonRead α} {g : α → β} {P : β → Prop} (h : ∀ a, P (g a)) :
    (g <$> x).Returns P := by
  intro c b c' hrun
  rcases hx : x.run.run c with ⟨r, c₁⟩
  simp only [ExceptT.run_map, StateT.run_map, hx] at hrun
  cases r with
  | error e => cases hrun
  | ok a =>
    cases hrun
    exact h a

theorem returns_failNext {code : JsonErrorCode} {P : α → Prop} :
    (failNext code : JsonRead α).Returns P := by
  unfold failNext failAt
  refine returns_bind_any fun c => ?_
  intro c₀ b c' hrun
  cases hrun

end

theorem items_returns {depth n : Nat} (hv : (value depth).Returns fun v => v.nesting ≤ n) :
    ∀ (fuel : Nat) (first : Bool) (acc : List JsonValue), (∀ v ∈ acc, v.nesting ≤ n) →
      (items depth fuel first acc).Returns fun vs => ∀ v ∈ vs, v.nesting ≤ n
  | 0, first, acc, hacc => by
    rw [items.eq_1]
    exact returns_pure fun v hv' => hacc v (List.mem_reverse.1 hv')
  | fuel + 1, first, acc, hacc => by
    unfold items
    refine returns_bind_any fun more => ?_
    split
    · refine returns_bind hv fun v hvn => ?_
      exact items_returns hv fuel false (v :: acc) fun w hw => by
        rcases List.mem_cons.1 hw with rfl | hw
        · exact hvn
        · exact hacc w hw
    · exact returns_pure fun v hv' => hacc v (List.mem_reverse.1 hv')

/-- Object fields read with `depth` levels left each nest as a value read so does; a later
field replaces an earlier one of the same key. -/
theorem fields_returns {depth n : Nat} (hv : (value depth).Returns fun v => v.nesting ≤ n) :
    ∀ (fuel : Nat) (first : Bool) (acc : List (String × JsonValue)),
      (∀ p ∈ acc, p.2.nesting ≤ n) →
        (fields depth fuel first acc).Returns fun fs => ∀ p ∈ fs, p.2.nesting ≤ n
  | 0, first, acc, hacc => by
    rw [fields.eq_1]
    exact returns_pure hacc
  | fuel + 1, first, acc, hacc => by
    unfold fields
    refine returns_bind_any fun key => ?_
    split
    · exact returns_pure hacc
    · refine returns_bind_any fun _ => returns_bind hv fun v hvn => ?_
      refine fields_returns hv fuel false _ fun p hp => ?_
      rcases JsonValue.mem_insertField hp with rfl | hp
      · exact hvn
      · exact hacc p hp

/-- A value read with `depth` levels left nests at most `depth` deep, a scalar one level
even with none left. The induction is on the levels left: an array or an object is read only
while two are left, its members with one less. -/
theorem value_returns (depth : Nat) : (value depth).Returns fun v => v.nesting ≤ max depth 1 := by
  induction depth using Nat.strong_induction_on with
  | _ depth ih =>
  unfold value
  refine returns_bind_any fun c => ?_
  split
  · exact returns_failNext
  rename_i ch
  have hscalar : ∀ v : JsonValue, v.nesting = 1 → v.nesting ≤ max depth 1 := fun v hv => by
    omega
  split
  · exact returns_bind_any fun _ => returns_bind_any fun _ =>
      returns_pure (hscalar _ rfl)
  · exact returns_bind_any fun _ => returns_bind_any fun _ =>
      returns_pure (hscalar _ rfl)
  · exact returns_bind_any fun _ => returns_bind_any fun _ =>
      returns_pure (hscalar _ rfl)
  · exact returns_bind_any fun _ => returns_map fun _ => hscalar _ rfl
  · exact returns_bind_any fun _ => returns_map fun _ => hscalar _ rfl
  · -- an array: its items are read with one level less
    split
    · exact returns_failNext
    · exact returns_failNext
    · rename_i d hd
      have hitems := items_returns (ih d (by omega))
      refine returns_bind_any fun _ => returns_bind_any fun c => ?_
      refine returns_bind (hitems (c.rest.length + 1) true [] (by simp)) fun vs hvs => ?_
      refine returns_bind_any fun _ => returns_pure ?_
      have hle := JsonValue.itemsNesting_le hvs
      have hpos : 1 ≤ d := Nat.pos_of_ne_zero hd
      simp only [JsonValue.nesting]
      omega
  · -- an object: its field values are read with one level less
    split
    · exact returns_failNext
    · exact returns_failNext
    · rename_i d hd
      have hfields := fields_returns (ih d (by omega))
      refine returns_bind_any fun _ => returns_bind_any fun c => ?_
      refine returns_bind (hfields (c.rest.length + 1) true [] (by simp)) fun fs hfs => ?_
      refine returns_bind_any fun _ => returns_pure ?_
      have hle := JsonValue.fieldsNesting_le hfs
      have hpos : 1 ≤ d := Nat.pos_of_ne_zero hd
      simp only [JsonValue.nesting]
      omega
  · split
    · exact returns_map fun _ => hscalar _ rfl
    · exact returns_failNext

end JsonRead

/-- A whole JSON text that reads nests at most `JsonRead.depthLimit` levels deep. -/
theorem JsonValue.nesting_of_parse {s : String} {v : JsonValue} (h : JsonValue.parse s = .ok v) :
    v.nesting ≤ JsonRead.depthLimit := by
  have hread : (do let v ← JsonRead.value JsonRead.depthLimit; JsonRead.finish; pure v :
      JsonRead JsonValue).Returns fun v => v.nesting ≤ JsonRead.depthLimit :=
    JsonRead.returns_bind (JsonRead.value_returns _) fun v hv =>
      JsonRead.returns_bind_any fun _ => JsonRead.returns_pure (by simpa [JsonRead.depthLimit] using hv)
  unfold JsonValue.parse JsonRead.runOn at h
  rcases hrun : (do let v ← JsonRead.value JsonRead.depthLimit; JsonRead.finish; pure v :
      JsonRead JsonValue).run.run (Cursor.start s) with ⟨r, c'⟩
  rw [hrun] at h
  cases h
  exact hread _ _ _ hrun

/-- A parsed formula is at most `JsonRead.depthLimit` levels deep. -/
theorem Expr.depth_of_parse {s : String} {e : Expr} (h : Expr.parse s = .ok e) :
    e.depth ≤ JsonRead.depthLimit := by
  unfold Expr.parse at h
  split at h
  · rename_i v hv
    cases h
    exact (Expr.depth_ofJson v).trans (JsonValue.nesting_of_parse hv)
  · cases h

/-- A parsed formula never fails to compile for being too deep: it is within the guard, so it
compiles as with no guard at all. -/
theorem compile_parsed_ne_tooDeep {s : String} {e : Expr} (h : Expr.parse s = .ok e)
    (b : Bindings) (n : Nat) : compile e b ≠ .error (.tooDeep n) := by
  have hdepth : e.depth ≤ maxDepth :=
    (Expr.depth_of_parse h).trans (by decide)
  intro h
  rw [compile, emit_eq_unbounded b 1 e (by omega)] at h
  exact emitUnbounded_ne_tooDeep b e n (Except.map_eq_error_iff.1 h)

theorem Expr.nest_succ (head : String) (n : Nat) (e : Expr) :
    Expr.nest head (n + 1) e = .application head [Expr.nest head n e] := by
  induction n generalizing e with
  | zero => rfl
  | succ n ih => rw [Expr.nest, ih]; rfl

/-- A tree built directly does reach the guard: minus signs stacked over a variable past the
limit fail for depth, under any table that leaves `Negate` to the library. -/
theorem emit_negations_tooDeep {b : Bindings} (hb : b.lookupOverride "Negate" = none)
    (x : String) : ∀ (n d : Nat), maxDepth < d + n →
      emit b d (Expr.nest "Negate" n (.identifier x)) = .error (.tooDeep maxDepth)
  | 0, d, h => by
    have hd : d > maxDepth := by omega
    simp [Expr.nest, emit, hd]
  | n + 1, d, h => by
    rw [Expr.nest_succ]
    by_cases hd : d > maxDepth
    · simp [emit, hd]
    · -- the minus sign passes its own check; its operand stands one level lower
      have hinner := emit_negations_tooDeep hb x n (d + 1) (by omega)
      have hrule : lookup "Negate" = some ⟨.exact 1, .unary "-"⟩ := rfl
      simp [emit, hd, hb, hrule, Arity.accepts, emitAll, hinner, bind, Except.bind]

/-- Decoding never deepens the tree: a decoded formula is at most as deep as its JSON value,
an object adding no level to what it holds, and since the reader refuses text nested past its
limit of 128 levels, no formula read from text ever makes the compiler report depth; a tree
built directly, such as 256 minus signs over a variable, does. -/
theorem decoding_never_deepens :
    (∀ v : JsonValue, (Expr.ofJson v).depth ≤ v.nesting) ∧
    (∀ fields, (Expr.ofJson (.object fields)).depth ≤ max 1 (JsonValue.fieldsNesting fields)) ∧
    (∀ s v, JsonValue.parse s = .ok v → v.nesting ≤ JsonRead.depthLimit) ∧
    (∀ s e, Expr.parse s = .ok e → ∀ b n, compile e b ≠ .error (.tooDeep n)) ∧
    (∀ b : Bindings, b.lookupOverride "Negate" = none →
      compile (Expr.nest "Negate" maxDepth (.identifier "x")) b = .error (.tooDeep maxDepth)) :=
  ⟨Expr.depth_ofJson, Expr.depth_ofJson_object, fun _ _ h => JsonValue.nesting_of_parse h,
    fun _ _ h => compile_parsed_ne_tooDeep h, fun b hb => by
      rw [compile, emit_negations_tooDeep hb "x" maxDepth 1 (by decide)]
      rfl⟩

end FormulaShader
