import FormulaShader.Proofs.Binary.SingleDoubling
import FormulaShader.Proofs.Compile.LexicalSafety
import FormulaShader.Shader.Gradient

/-!
# The gradient writes finite literals exactly when its doubled step is finite

`Gradient.module` writes one line per axis of the domain, each a difference of two samples of
`f` at `pos` moved by the step along that axis, divided by twice the step. The two numbers are
written by `Binary32.literalText`, and twice the step is computed in single precision first,
so a step above half the largest single doubles to infinity and the shader text spells `inf`;
a NaN step stays a NaN and spells `NaN`. Any other step is written, with its double, as a
plain decimal.

Whether a text spells `inf` or `NaN` is a fact about adjacent characters, followed through
concatenation the way `FormulaShader.Proofs.Text.Lexical` follows decrements: text with no
`N`, no `n` right before an `f` and no `n` at its end spells neither, and stays so when put
beside such text. Every fixed piece of the gradient's text is such a text, and so is every
finite literal.

Results:
* `SpecialFree`, `SpecialFree.append`: text that spells neither special value, and its
  closure under concatenation.
* `Binary32.literalText_specialFree`, `Binary32.literalText_spells_special`: a finite
  literal spells neither, and any other literal spells one of them.
* `Gradient.module_frame`: the text around the component lines is the same for every
  gradient, and there is one line per axis.
* `Gradient.module_specialFree`: with a finite doubled step, the whole text spells neither.
* `gradient_finite_literals_iff_double_finite`: the text has no `inf` and no `NaN` exactly
  when the doubled step is finite, exactly when the step is at most half the largest single.
-/

namespace FormulaShader

/-! ## Text that spells no special value -/

/-- Text with no `N`, no `n` right before an `f`, and no `n` at its end: it spells neither
`NaN` nor `inf`, and no `inf` forms where anything of the same kind follows it. -/
structure SpecialFree (s : List Char) : Prop where
  no_N : 'N' ∉ s
  no_nf : s.IsChain fun a b => ¬ (a = 'n' ∧ b = 'f')
  last : s.getLast? ≠ some 'n'

instance : DecidablePred SpecialFree := fun s =>
  decidable_of_iff ('N' ∉ s ∧ (s.IsChain fun a b => ¬ (a = 'n' ∧ b = 'f')) ∧
    s.getLast? ≠ some 'n')
    ⟨fun h => ⟨h.1, h.2.1, h.2.2⟩, fun h => ⟨h.no_N, h.no_nf, h.last⟩⟩

theorem SpecialFree.append {a b : List Char} (ha : SpecialFree a) (hb : SpecialFree b) :
    SpecialFree (a ++ b) where
  no_N := by simp [ha.no_N, hb.no_N]
  -- the junction is safe because `a` does not end in `n`
  no_nf := List.isChain_append.2 ⟨ha.no_nf, hb.no_nf,
    fun x hx _ _ hxy => ha.last (Option.mem_def.1 hx ▸ hxy.1 ▸ rfl)⟩
  last := by
    rw [List.getLast?_append]
    cases h : b.getLast? with
    | none => simpa [h] using ha.last
    | some c => simpa [h] using hb.last

theorem specialFree_flatten : ∀ {L : List (List Char)}, (∀ l ∈ L, SpecialFree l) →
    SpecialFree L.flatten
  | [], _ => by decide
  | l :: L, h => (h l (List.mem_cons_self ..)).append
    (specialFree_flatten fun l' hl' => h l' (List.mem_cons_of_mem _ hl'))

theorem specialFree_intercalate {sep : String} (hsep : SpecialFree sep.toList) :
    ∀ {xs : List String}, (∀ x ∈ xs, SpecialFree x.toList) →
      SpecialFree (sep.intercalate xs).toList
  | [], _ => by simp only [String.intercalate_nil]; decide
  | [x], h => by simpa using h x (by simp)
  | x :: y :: xs, h => by
    rw [String.intercalate_cons_cons, String.toList_append, String.toList_append]
    exact ((h x (by simp)).append hsep).append
      (specialFree_intercalate hsep fun z hz => h z (List.mem_cons_of_mem _ hz))

theorem specialFree_of_forall {s : List Char} (h : ∀ c ∈ s, c ≠ 'n' ∧ c ≠ 'N') :
    SpecialFree s where
  no_N := fun hN => (h 'N' hN).2 rfl
  no_nf := List.Pairwise.isChain
    (List.pairwise_of_forall_mem_list fun a ha _ _ hab => (h a ha).1 hab.1)
  last := fun hl => (h 'n' (List.mem_of_getLast? hl)).1 rfl

theorem SpecialFree.not_inf {s : List Char} (h : SpecialFree s) : ¬ "inf".toList <:+: s := by
  intro hinf
  have hchain := List.IsChain.infix h.no_nf hinf
  exact absurd hchain (by decide)

theorem SpecialFree.not_nan {s : List Char} (h : SpecialFree s) : ¬ "NaN".toList <:+: s :=
  fun hnan => h.no_N (hnan.subset (by decide))

/-! ## Literals -/

/-- A finite literal is a sign and a numeral, so it spells no special value. -/
theorem Binary32.literalText_specialFree {x : Binary32} (hx : x.isFinite = true) :
    SpecialFree x.literalText.toList := by
  obtain ⟨sign, body, htext, hsign, -, hnum⟩ := x.literalText_shape hx
  have hsign' : ∀ c ∈ sign, c ≠ 'n' ∧ c ≠ 'N' := by
    rcases hsign with rfl | rfl <;> simp
  have hbody : ∀ c ∈ body, c ≠ 'n' ∧ c ≠ 'N' := by
    intro c hc
    rcases hnum c hc with hd | rfl
    · exact ⟨by rintro rfl; exact absurd hd (by decide), by rintro rfl; exact absurd hd (by decide)⟩
    · decide
  rw [htext]
  exact (specialFree_of_forall hsign').append (specialFree_of_forall hbody)

/-- A literal of a NaN or an infinity spells `NaN` or `inf`. -/
theorem Binary32.literalText_spells_special {x : Binary32} (hx : x.isFinite = false) :
    "inf".toList <:+: x.literalText.toList ∨ "NaN".toList <:+: x.literalText.toList := by
  unfold literalText
  cases hv : x.value with
  | nan =>
    right
    simp [Binary32.format, FloatLayout.render, FloatLayout.plain, hv]
  | infinite negative =>
    left
    simp only [Binary32.format, FloatLayout.render, FloatLayout.plain, hv, String.toList_append]
    exact (List.suffix_append _ _).isInfix
  | finite negative m e => simp [isFinite, hv] at hx

namespace Gradient

/-! ## The text of the gradient -/

/-- The vector of `t` along `axis` and `0.0` along every other axis of the domain. -/
def axisVector (domain : Domain) (axis : Nat) (t : String) : String :=
  domain.vecType ++ "(" ++
    ", ".intercalate ((List.range domain.axes).map fun j => if j = axis then t else "0.0") ++ ")"

/-- Around its component lines, one per axis in order, the text of the gradient is the same
for every gradient. -/
theorem module_frame (domain : Domain) (linkage : Linkage) :
    ∃ pre post : String, ∀ g : Gradient, g.module domain linkage =
      pre ++ String.join ((List.range domain.axes).map fun i =>
        "        " ++ g.component domain i ++ ",\n") ++ post := by
  cases linkage
  · -- the header of a linked function goes before the same body
    refine ⟨"@link fn f(pos: " ++ domain.vecType ++ ") -> f32 \x7b\x7d\n\n@export " ++
      ("fn df(pos: " ++ domain.vecType ++ ") -> " ++ domain.vecType ++ " \x7b\n    return " ++
        domain.vecType ++ "(\n"), "    );\n\x7d\n", fun g => ?_⟩
    unfold module
    dsimp only
    rw [← String.append_assoc, ← String.append_assoc]
  · exact ⟨"fn df(pos: " ++ domain.vecType ++ ") -> " ++ domain.vecType ++ " \x7b\n    return " ++
      domain.vecType ++ "(\n", "    );\n\x7d\n", fun g => rfl⟩

/-- The component along `axis` samples `f` at `pos` moved forward and back along that axis
only, by the literal of the step. -/
theorem difference_infix_component (g : Gradient) (domain : Domain) (axis : Nat) :
    ("f(pos + " ++ axisVector domain axis g.step.literalText ++ ")" ++ " - " ++
      "f(pos - " ++ axisVector domain axis g.step.literalText ++ ")").toList <:+:
      (g.component domain axis).toList := by
  unfold component axisVector
  split
  · exact ⟨[], (" / " ++ g.step.double.literalText).toList, by
      simp only [String.toList_append, List.append_assoc, List.nil_append]⟩
  · exact ⟨"(".toList, (") / " ++ g.step.double.literalText).toList, by
      simp only [String.toList_append, List.append_assoc]⟩

theorem denominator_suffix_component (g : Gradient) (domain : Domain) (axis : Nat) :
    (" / " ++ g.step.double.literalText).toList <:+ (g.component domain axis).toList := by
  unfold component
  split
  · simp only [String.toList_append]
    exact ⟨_, (List.append_assoc _ _ _).symm⟩
  · -- the central form closes its parenthesis right before the division
    have hclose : (" / " ++ g.step.double.literalText).toList <:+
        (") / " ++ g.step.double.literalText).toList := by
      refine ⟨")".toList, ?_⟩
      rw [String.toList_append, String.toList_append, ← List.append_assoc]
      rfl
    refine hclose.trans ?_
    simp only [String.toList_append]
    exact ⟨_, (List.append_assoc _ _ _).symm⟩

theorem component_infix_module (g : Gradient) (domain : Domain) (linkage : Linkage) {axis : Nat}
    (haxis : axis < domain.axes) :
    (g.component domain axis).toList <:+: (g.module domain linkage).toList := by
  obtain ⟨pre, post, hframe⟩ := module_frame domain linkage
  have hline : ("        " ++ g.component domain axis ++ ",\n").toList ∈
      ((List.range domain.axes).map fun i => "        " ++ g.component domain i ++ ",\n").map
        String.toList :=
    List.mem_map_of_mem (List.mem_map_of_mem (List.mem_range.2 haxis))
  rw [hframe g, String.toList_append, String.toList_append, String.toList_join, List.flatMap_def]
  calc (g.component domain axis).toList
      <:+: ("        " ++ g.component domain axis ++ ",\n").toList := by
        simpa only [String.toList_append] using List.infix_append _ _ _
    _ <:+: _ := List.infix_of_mem_flatten hline
    _ <:+: _ := List.infix_append _ _ _

theorem vecType_specialFree (domain : Domain) : SpecialFree domain.vecType.toList := by
  cases domain <;> decide

theorem component_specialFree (g : Gradient) (domain : Domain) (axis : Nat)
    (hstep : SpecialFree g.step.literalText.toList)
    (hdouble : SpecialFree g.step.double.literalText.toList) :
    SpecialFree (g.component domain axis).toList := by
  have hvec := vecType_specialFree domain
  have hparts : SpecialFree (", ".intercalate ((List.range domain.axes).map fun j =>
      if j = axis then g.step.literalText else "0.0")).toList := by
    refine specialFree_intercalate (by decide) fun x hx => ?_
    obtain ⟨j, -, rfl⟩ := List.mem_map.1 hx
    split
    · exact hstep
    · decide
  -- every other piece is fixed text
  unfold component
  split <;> simp only [String.toList_append] <;> repeat' apply SpecialFree.append
  all_goals first | decide | assumption

/-- With a finite doubled step the text of the gradient spells no special value. -/
theorem module_specialFree (g : Gradient) (domain : Domain) (linkage : Linkage)
    (hfin : g.step.double.isFinite = true) : SpecialFree (g.module domain linkage).toList := by
  have hcomponent : ∀ i, SpecialFree (g.component domain i).toList := fun i =>
    component_specialFree g domain i
      (Binary32.literalText_specialFree (Binary32.isFinite_of_double hfin))
      (Binary32.literalText_specialFree hfin)
  have hlines : SpecialFree (String.join ((List.range domain.axes).map fun i =>
      "        " ++ g.component domain i ++ ",\n")).toList := by
    rw [String.toList_join, List.flatMap_def]
    refine specialFree_flatten fun l hl => ?_
    obtain ⟨s, hs, rfl⟩ := List.mem_map.1 hl
    obtain ⟨i, -, rfl⟩ := List.mem_map.1 hs
    simp only [String.toList_append]
    exact ((by decide : SpecialFree "        ".toList).append (hcomponent i)).append (by decide)
  have hvec := vecType_specialFree domain
  unfold module
  cases linkage <;> simp only [String.toList_append] <;> repeat' apply SpecialFree.append
  all_goals first | decide | assumption

end Gradient

/-- The text of the gradient: one line per axis in a frame that no gradient changes, the line
of each axis a difference of `f` at `pos` moved along that axis alone by the literal of the
step, divided by the literal of the doubled step. With a finite doubled step both literals are
a sign and a plain decimal, and the text spells neither `inf` nor `NaN` exactly when the
doubled step is finite, which is exactly when the step is finite and at most half the largest
single in magnitude. -/
theorem gradient_finite_literals_iff_double_finite (g : Gradient) (domain : Domain)
    (linkage : Linkage) :
    (∃ pre post : String, ∀ g' : Gradient, g'.module domain linkage =
      pre ++ String.join ((List.range domain.axes).map fun i =>
        "        " ++ g'.component domain i ++ ",\n") ++ post) ∧
    (∀ i < domain.axes,
      ("f(pos + " ++ Gradient.axisVector domain i g.step.literalText ++ ")" ++ " - " ++
        "f(pos - " ++ Gradient.axisVector domain i g.step.literalText ++ ")").toList <:+:
          (g.component domain i).toList ∧
      (" / " ++ g.step.double.literalText).toList <:+ (g.component domain i).toList) ∧
    (g.step.double.isFinite = true → ∀ x ∈ [g.step, g.step.double], ∃ sign body,
      x.literalText.toList = sign ++ body ∧ (sign = [] ∨ sign = ['-']) ∧ body ≠ [] ∧
        Numeral body) ∧
    ((¬ "inf".toList <:+: (g.module domain linkage).toList ∧
        ¬ "NaN".toList <:+: (g.module domain linkage).toList) ↔ g.step.double.isFinite = true) ∧
    (g.step.double.isFinite = true ↔ ∃ s m e, g.step.value = .finite s m e ∧
      (m : ℚ) * 2 ^ e ≤ (2 ^ 24 - 1) * 2 ^ (104 : Int) / 2) := by
  refine ⟨Gradient.module_frame domain linkage, fun i _ => ⟨Gradient.difference_infix_component g domain i,
    Gradient.denominator_suffix_component g domain i⟩, ?_, ⟨?_, ?_⟩, Binary32.double_isFinite_iff g.step⟩
  · -- both literals are of finite singles
    intro hfin x hx
    rcases List.mem_pair.1 hx with rfl | rfl
    · exact Binary32.literalText_shape _ (Binary32.isFinite_of_double hfin)
    · exact Binary32.literalText_shape _ hfin
  · -- a special doubled step shows in the denominator of the first axis
    rintro ⟨hinf, hnan⟩
    by_contra hfin
    have hspecial : g.step.double.isFinite = false := by simpa using hfin
    have haxes : 0 < domain.axes := by cases domain <;> decide
    have hdenom : g.step.double.literalText.toList <:+: (g.module domain linkage).toList :=
      calc g.step.double.literalText.toList
          <:+: (" / " ++ g.step.double.literalText).toList := by
            rw [String.toList_append]
            exact (List.suffix_append _ _).isInfix
        _ <:+: (g.component domain 0).toList :=
            (Gradient.denominator_suffix_component g domain 0).isInfix
        _ <:+: _ := Gradient.component_infix_module g domain linkage haxes
    rcases Binary32.literalText_spells_special hspecial with h | h
    · exact hinf (h.trans hdenom)
    · exact hnan (h.trans hdenom)
  · -- a finite doubled step leaves every piece of the text free of special spellings
    intro hfin
    have h := Gradient.module_specialFree g domain linkage hfin
    exact ⟨h.not_inf, h.not_nan⟩

example : (Binary32.ofBits 0x7F7FFFFF).double.isFinite = false := by decide

end FormulaShader
