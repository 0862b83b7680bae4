import Mathlib

/-!
# Decrements and balanced parentheses

Two lexical faults can spoil generated shader text: a `--`, which the shading language reads
as a decrement, and parentheses that do not balance. Both are facts about characters side by
side, so they can be followed through concatenation. A `--` in `a ++ b` lies inside `a`,
inside `b`, or across the junction, where `a` ends and `b` begins with a minus sign. A
balanced text put anywhere inside a balanced text leaves it balanced.

Text with no `--` and no minus sign at its end is *closed*: whatever follows it, no decrement
forms at the junction. Closed text that balances is *sealed*, and both properties survive
putting such texts side by side.

Results:
* `NoDecrement`, `noDecrement_iff`: no two adjacent minus signs, that is no `--` inside.
* `Balanced`: no prefix closes more parentheses than it opens, and the totals agree.
* `balanced_insert`: a balanced text inserted anywhere into a balanced text.
* `Lexical.append`, `Lexical.intercalate`: the two facts through concatenation and through
  a join with a separator that holds no minus sign and no parenthesis.
* `Closed.append`, `Sealed.append`: closed, and sealed, texts side by side stay so.
-/

namespace FormulaShader

/-! ## Decrements -/

/-- No two adjacent characters are both minus signs. -/
def NoDecrement (s : List Char) : Prop :=
  s.IsChain fun a b => ¬ (a = '-' ∧ b = '-')

instance : DecidablePred NoDecrement := fun s =>
  inferInstanceAs (Decidable (s.IsChain fun a b => ¬ (a = '-' ∧ b = '-')))

theorem minus_prefix_iff (a : Char) (l : List Char) :
    ['-', '-'] <+: a :: l ↔ a = '-' ∧ l.head? = some '-' := by
  cases l <;> simp [eq_comm]

/-- Text holds no `--` exactly when no two adjacent characters are minus signs. -/
theorem noDecrement_iff : ∀ s : List Char, NoDecrement s ↔ ¬ ['-', '-'] <:+: s
  | [] => by simp [NoDecrement]
  | [c] => by
    have h : ¬ ['-', '-'] <:+: [c] := fun h => by simpa using h.length_le
    simp [NoDecrement, h]
  | a :: b :: l => by
    have ih := noDecrement_iff (b :: l)
    have hinfix : ['-', '-'] <:+: a :: b :: l ↔ (a = '-' ∧ b = '-') ∨ ['-', '-'] <:+: b :: l := by
      rw [List.infix_cons_iff, minus_prefix_iff, List.head?_cons, Option.some.injEq]
    rw [NoDecrement, List.isChain_cons_cons, ← NoDecrement, ih, hinfix, not_or]

/-- A `--` in a concatenation lies inside one side or across the junction. -/
theorem noDecrement_append {a b : List Char} :
    NoDecrement (a ++ b) ↔
      NoDecrement a ∧ NoDecrement b ∧ ¬ (a.getLast? = some '-' ∧ b.head? = some '-') := by
  simp only [NoDecrement, List.isChain_append]
  cases a.getLast? <;> cases b.head? <;> simp

theorem noDecrement_of_not_mem {s : List Char} (h : '-' ∉ s) : NoDecrement s :=
  (noDecrement_iff s).2 fun hi => h (hi.subset (by simp))

/-! ## Balanced parentheses -/

/-- Parentheses are balanced: no prefix closes more than it opens, and the whole text closes
as many as it opens. -/
def Balanced (s : List Char) : Prop :=
  (∀ n, (s.take n).count ')' ≤ (s.take n).count '(') ∧ s.count ')' = s.count '('

/-- Prefixes longer than the text are the text itself, so only `length + 1` of them count. -/
theorem balanced_iff_bounded {s : List Char} :
    Balanced s ↔ (∀ n < s.length + 1, (s.take n).count ')' ≤ (s.take n).count '(') ∧
      s.count ')' = s.count '(' := by
  refine ⟨fun h => ⟨fun n _ => h.1 n, h.2⟩, fun h => ⟨fun n => ?_, h.2⟩⟩
  by_cases hn : n < s.length + 1
  · exact h.1 n hn
  · have hall := h.1 s.length (by omega)
    rw [List.take_length] at hall
    rwa [List.take_of_length_le (by omega)]

instance : DecidablePred Balanced := fun _ => decidable_of_iff _ balanced_iff_bounded.symm

theorem balanced_of_no_parens {s : List Char} (h : '(' ∉ s ∧ ')' ∉ s) : Balanced s := by
  have hopen : s.count '(' = 0 := List.count_eq_zero.2 h.1
  have hclose : s.count ')' = 0 := List.count_eq_zero.2 h.2
  refine ⟨fun n => ?_, by omega⟩
  have := (List.take_sublist n s).count_le ')'
  omega

/-- A balanced text inserted anywhere into a balanced text keeps it balanced. A prefix of
the result ends inside `u`, inside `m` or inside `v`; in each case it is a prefix of `u ++ v`
with a prefix of `m`, or all of it, put in. -/
theorem balanced_insert {u m v : List Char} (h : Balanced (u ++ v)) (hm : Balanced m) :
    Balanced (u ++ m ++ v) := by
  obtain ⟨hpre, htot⟩ := h
  obtain ⟨mpre, mtot⟩ := hm
  refine ⟨fun n => ?_, ?_⟩
  · rw [List.take_append, List.take_append, List.length_append]
    simp only [List.count_append]
    by_cases hnu : n ≤ u.length
    · -- the prefix ends inside `u`
      have hu := hpre n
      rw [List.take_append, Nat.sub_eq_zero_of_le hnu, List.take_zero, List.append_nil] at hu
      rw [Nat.sub_eq_zero_of_le hnu, Nat.sub_eq_zero_of_le (by omega)]
      simp only [List.take_zero, List.count_nil]
      omega
    have hu := hpre u.length
    rw [List.take_append, List.take_length, Nat.sub_self, List.take_zero,
      List.append_nil] at hu
    rw [List.take_of_length_le (by omega : u.length ≤ n)]
    by_cases hnm : n ≤ u.length + m.length
    · -- the prefix ends inside `m`
      have hmn := mpre (n - u.length)
      rw [Nat.sub_eq_zero_of_le hnm]
      simp only [List.take_zero, List.count_nil]
      omega
    · -- the prefix ends inside `v`
      have hv := hpre (u.length + (n - (u.length + m.length)))
      rw [List.take_append, List.take_of_length_le (by omega), Nat.add_sub_cancel_left] at hv
      rw [List.take_of_length_le (by omega : m.length ≤ n - u.length)]
      simp only [List.count_append] at hv
      omega
  · simp only [List.count_append] at htot ⊢
    omega

theorem Balanced.append {a b : List Char} (ha : Balanced a) (hb : Balanced b) :
    Balanced (a ++ b) := by
  simpa using @balanced_insert a b [] (by simpa using ha) hb

theorem Balanced.wrap {a : List Char} (h : Balanced a) : Balanced (['('] ++ a ++ [')']) :=
  @balanced_insert ['('] a [')'] (by decide) h

/-! ## Lexically clean and sealed text -/

/-- Text with neither lexical fault. -/
structure Lexical (s : List Char) : Prop where
  noDecrement : NoDecrement s
  balanced : Balanced s

/-- Text that no decrement touches: none inside, and no minus sign at its end to start one. -/
structure Closed (s : List Char) : Prop where
  noDecrement : NoDecrement s
  last : s.getLast? ≠ some '-'

/-- Closed text whose parentheses balance; any text may follow it. -/
structure Sealed (s : List Char) : Prop extends Closed s where
  balanced : Balanced s

theorem Sealed.toLexical {s : List Char} (h : Sealed s) : Lexical s :=
  ⟨h.noDecrement, h.balanced⟩

theorem Lexical.append {a b : List Char} (ha : Lexical a) (hb : Lexical b)
    (h : a.getLast? ≠ some '-' ∨ b.head? ≠ some '-') : Lexical (a ++ b) := by
  refine ⟨noDecrement_append.2 ⟨ha.noDecrement, hb.noDecrement, ?_⟩,
    ha.balanced.append hb.balanced⟩
  rintro ⟨hl, hh⟩
  exact h.elim (· hl) (· hh)

theorem Closed.append {a b : List Char} (ha : Closed a) (hb : Closed b) : Closed (a ++ b) := by
  refine ⟨noDecrement_append.2 ⟨ha.noDecrement, hb.noDecrement, fun h => ha.last h.1⟩, ?_⟩
  rw [List.getLast?_append]
  cases hlast : b.getLast? with
  | none => simpa using ha.last
  | some c => simpa [hlast] using hb.last

theorem Sealed.append {a b : List Char} (ha : Sealed a) (hb : Sealed b) : Sealed (a ++ b) :=
  ⟨ha.toClosed.append hb.toClosed, ha.balanced.append hb.balanced⟩

theorem sealed_nil : Sealed [] := ⟨⟨by decide, by decide⟩, by decide⟩

theorem Lexical.wrap {a : List Char} (h : Lexical a) : Sealed (['('] ++ a ++ [')']) := by
  have hnd : NoDecrement (['('] ++ a ++ [')']) :=
    noDecrement_append.2 ⟨noDecrement_append.2 ⟨by decide, h.noDecrement, by simp⟩, by decide,
      by simp⟩
  exact ⟨⟨hnd, by rw [List.getLast?_append]; simp⟩, h.balanced.wrap⟩

theorem Lexical.append_wrap {a b : List Char} (ha : Lexical a) (hb : Lexical b) :
    Sealed (a ++ (['('] ++ b ++ [')'])) := by
  have hw := hb.wrap
  have hlast : (['('] ++ b ++ [')']).getLast? = some ')' := by
    rw [List.getLast?_append, List.getLast?_singleton, Option.some_or]
  refine ⟨⟨(ha.append hw.toLexical (.inr (by simp))).noDecrement, ?_⟩,
    ha.balanced.append hw.balanced⟩
  rw [List.getLast?_append, hlast, Option.some_or]
  simp

/-- A separator with no minus sign and no parenthesis between clean texts keeps them clean:
no junction touches two minus signs. -/
theorem Lexical.intercalate {sep : List Char} (hminus : '-' ∉ sep)
    (hparens : '(' ∉ sep ∧ ')' ∉ sep) (hne : sep ≠ []) :
    ∀ {xs : List (List Char)}, (∀ x ∈ xs, Lexical x) → Lexical (sep.intercalate xs)
  | [], _ => by
    rw [List.intercalate_nil]
    exact ⟨by decide, by decide⟩
  | [x], h => by simpa using h x (by simp)
  | x :: y :: rest, h => by
    have hsep : Lexical sep := ⟨noDecrement_of_not_mem hminus, balanced_of_no_parens hparens⟩
    have hrest : Lexical (sep.intercalate (y :: rest)) :=
      Lexical.intercalate hminus hparens hne fun z hz => h z (List.mem_cons_of_mem x hz)
    have hhead : sep.head? ≠ some '-' := fun hh => hminus (List.mem_of_mem_head? hh)
    have hlast : (x ++ sep).getLast? ≠ some '-' := by
      rw [List.getLast?_append, List.getLast?_eq_some_getLast hne, Option.some_or]
      intro hl
      exact hminus (Option.some.inj hl ▸ List.getLast_mem hne)
    rw [List.intercalate_cons_cons]
    exact ((h x (by simp)).append hsep (.inr hhead)).append hrest (.inl hlast)

end FormulaShader
