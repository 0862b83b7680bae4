import Mathlib
import FormulaShader.Bindings.Mode

/-!
# Merging tables is a right-biased union

A bindings table keeps its two namespaces as maps whose entries are sorted by name, each name
once, an order every write keeps by construction. The writes read back simply: a write answers
for its own name and leaves every other name alone, a union answers from the second map and
falls back on the first, and a write-if-absent answers from the map and falls back on the new
entry. Two sorted maps that answer alike for every name are the same map, so the laws of a
union follow from the lookups alone.

For tables this gives, namespace by namespace and independently of each other: `merge` is
a union biased to its second table, `withConstants` a union biased to the table with the three
constants behind it, and hence merging is associative with the empty table on both sides,
adding the constants twice adds nothing, and the constants may be added before or after a
merge.

Results:
* `NameMap.lookup_insertEntry`, `NameMap.find?_union`, `NameMap.find?_insertIfAbsent`: what a
  write answers for each name.
* `NameMap.eq_of_find?_eq`, `Bindings.eq_of_lookup_eq`: maps and tables that answer alike are
  equal.
* `Bindings.lookupVar_merge`, `Bindings.lookupVar_withConstants` and their override
  companions.
* `constants_lookup`: the constants are π, e and τ written to ten places, and nothing else.
* `merge_constants_right_biased_union`: the lookups of a merge and of the constants, and the
  union laws that follow.
-/

namespace FormulaShader

namespace NameMap

variable {α : Type}

/-! ## Lookups through the writes -/

theorem lookup_cons (k n : String) (v : α) (rest : List (String × α)) :
    ((k, v) :: rest).lookup n = if n = k then some v else rest.lookup n := by
  by_cases h : n = k
  · simp [h]
  · simp [List.lookup_cons, h, beq_false_of_ne h]

theorem lookup_eq_none_of_lt {n : String} {l : List (String × α)} (h : ∀ p ∈ l, n < p.1) :
    l.lookup n = none :=
  List.lookup_eq_none_iff.2 fun p hp => by simpa using ne_of_lt (h p hp)

/-- A written entry answers for its own name, and the entries answer for every other name,
however they are ordered. -/
@[simp] theorem lookup_insertEntry (name n : String) (value : α) (l : List (String × α)) :
    (insertEntry name value l).lookup n = if n = name then some value else l.lookup n := by
  induction l with
  | nil => simp [insertEntry, lookup_cons]
  | cons p rest ih =>
    obtain ⟨k, v⟩ := p
    unfold insertEntry
    split
    · simp only [lookup_cons]
    · split
      · -- the entry of the name is replaced
        rename_i heq
        subst heq
        by_cases hn : n = name <;> simp [lookup_cons, hn]
      · rename_i hlt hne
        rw [lookup_cons, lookup_cons, ih]
        by_cases hn : n = name
        · simp [hn, hne]
        · simp [hn]

@[simp] theorem find?_insert (m : NameMap α) (name n : String) (value : α) :
    (m.insert name value).2.find? n = if n = name then some value else m.find? n :=
  lookup_insertEntry name n value m.entries

@[simp] theorem find?_empty (n : String) : (empty : NameMap α).find? n = none := rfl

@[simp] theorem find?_insertIfAbsent (m : NameMap α) (name n : String) (value : α) :
    (m.insertIfAbsent name value).find? n = (m.find? n).or (if n = name then some value else none) := by
  unfold insertIfAbsent
  cases hm : m.find? name with
  | some w =>
    by_cases hn : n = name
    · simp [hn, hm]
    · simp [hn]
  | none => by_cases hn : n = name <;> simp [hn, hm]

/-- Writing a list of entries one by one in order: a later entry of a name replaces an
earlier one, so with distinct names the list answers first and the map after it. -/
theorem lookup_foldl_insertEntry {l : List (String × α)} (hl : l.Pairwise fun a b => a.1 ≠ b.1)
    (acc : List (String × α)) (n : String) :
    (l.foldl (fun acc e => insertEntry e.1 e.2 acc) acc).lookup n = (l.lookup n).or (acc.lookup n) := by
  induction l generalizing acc with
  | nil => simp
  | cons p rest ih =>
    obtain ⟨k, v⟩ := p
    rw [List.pairwise_cons] at hl
    rw [List.foldl_cons, ih hl.2, lookup_insertEntry, lookup_cons]
    by_cases hn : n = k
    · -- the later entries hold no other entry of the name
      have hnone : rest.lookup k = none :=
        List.lookup_eq_none_iff.2 fun q hq => by simpa using hl.1 q hq
      simp [hn, hnone]
    · simp [hn]

/-- Writing entries one by one where absent: the map answers first, then the earliest entry
of the name. -/
theorem find?_foldl_insertIfAbsent (cs : List (String × α)) (m : NameMap α) (n : String) :
    (cs.foldl (fun m c => m.insertIfAbsent c.1 c.2) m).find? n = (m.find? n).or (cs.lookup n) := by
  induction cs generalizing m with
  | nil => simp
  | cons c cs ih =>
    obtain ⟨k, v⟩ := c
    rw [List.foldl_cons, ih, find?_insertIfAbsent, Option.or_assoc, lookup_cons]
    by_cases hn : n = k <;> simp [hn]

theorem distinct (m : NameMap α) : m.entries.Pairwise fun a b => a.1 ≠ b.1 :=
  m.sorted.imp ne_of_lt

/-- The union answers from the second map, and from the first where the second has nothing. -/
theorem find?_union (m other : NameMap α) (n : String) :
    (m.union other).find? n = (other.find? n).or (m.find? n) :=
  lookup_foldl_insertEntry other.distinct m.entries n

/-! ## Maps are fixed by their lookups -/

/-- Sorted entries that answer alike for every name are the same entries. The least names
must agree, for a name below all entries of a list finds nothing in it; then so do the rest. -/
theorem eq_of_lookup_eq :
    ∀ {l₁ l₂ : List (String × α)}, l₁.Pairwise (fun a b => a.1 < b.1) →
      l₂.Pairwise (fun a b => a.1 < b.1) → (∀ n, l₁.lookup n = l₂.lookup n) → l₁ = l₂
  | [], [], _, _, _ => rfl
  | [], (k, v) :: _, _, _, h => by simpa [lookup_cons] using h k
  | (k, v) :: _, [], _, _, h => by simpa [lookup_cons] using h k
  | (k₁, v₁) :: r₁, (k₂, v₂) :: r₂, h₁, h₂, h => by
    rw [List.pairwise_cons] at h₁ h₂
    have hk : k₁ = k₂ := by
      rcases lt_trichotomy k₁ k₂ with hlt | heq | hgt
      · have hnone : r₂.lookup k₁ = none :=
          lookup_eq_none_of_lt fun q hq => lt_trans hlt (h₂.1 q hq)
        simpa [lookup_cons, ne_of_lt hlt, hnone] using h k₁
      · exact heq
      · have hnone : r₁.lookup k₂ = none :=
          lookup_eq_none_of_lt fun q hq => lt_trans hgt (h₁.1 q hq)
        simpa [lookup_cons, ne_of_lt hgt, hnone] using (h k₂).symm
    subst hk
    have hv : v₁ = v₂ := by simpa [lookup_cons] using h k₁
    have hrest : ∀ n, r₁.lookup n = r₂.lookup n := by
      intro n
      by_cases hn : n = k₁
      · subst hn
        rw [lookup_eq_none_of_lt h₁.1, lookup_eq_none_of_lt h₂.1]
      · simpa [lookup_cons, hn] using h n
    rw [hv, eq_of_lookup_eq h₁.2 h₂.2 hrest]

/-- Maps that answer alike for every name are the same map. -/
theorem eq_of_find?_eq {m₁ m₂ : NameMap α} (h : ∀ n, m₁.find? n = m₂.find? n) : m₁ = m₂ := by
  obtain ⟨l₁, h₁⟩ := m₁
  obtain ⟨l₂, h₂⟩ := m₂
  obtain rfl := eq_of_lookup_eq h₁ h₂ h
  rfl

end NameMap

namespace Bindings

/-! ## Tables -/

/-- Tables that answer alike in both namespaces are the same table. -/
theorem eq_of_lookup_eq {a b : Bindings} (hvars : ∀ n, a.lookupVar n = b.lookupVar n)
    (hoverrides : ∀ n, a.lookupOverride n = b.lookupOverride n) : a = b := by
  obtain ⟨va, oa⟩ := a
  obtain ⟨vb, ob⟩ := b
  have hv : va = vb := NameMap.eq_of_find?_eq hvars
  have ho : oa = ob := NameMap.eq_of_find?_eq hoverrides
  rw [hv, ho]

theorem lookupVar_merge (a b : Bindings) (n : String) :
    (a.merge b).lookupVar n = (b.lookupVar n).or (a.lookupVar n) :=
  NameMap.find?_union a.vars b.vars n

theorem lookupOverride_merge (a b : Bindings) (n : String) :
    (a.merge b).lookupOverride n = (b.lookupOverride n).or (a.lookupOverride n) :=
  NameMap.find?_union a.overrides b.overrides n

@[simp] theorem lookupVar_empty (n : String) : Bindings.empty.lookupVar n = none := rfl

@[simp] theorem lookupOverride_empty (n : String) : Bindings.empty.lookupOverride n = none := rfl

/-- The constants are written one by one where absent, so the table answers first and the
constants after it. -/
theorem lookupVar_withConstants (a : Bindings) (n : String) :
    a.withConstants.lookupVar n = (a.lookupVar n).or (constants.lookup n) :=
  NameMap.find?_foldl_insertIfAbsent constants a.vars n

@[simp] theorem lookupOverride_withConstants (a : Bindings) (n : String) :
    a.withConstants.lookupOverride n = a.lookupOverride n := rfl

/-! ## The constants -/

/-- The number each constant name stands for: π, e and τ = 2π. -/
noncomputable def constantValue : String → Option ℝ
  | "Pi" => some Real.pi
  | "ExponentialE" => some (Real.exp 1)
  | "Tau" => some (2 • Real.pi)
  | _ => none

/-- `text` writes `x` to ten decimal places: digits, a point and ten digits, which read
without the point are `x · 10^10` rounded to the nearest integer. -/
def WrittenToTenPlaces (x : ℝ) (text : String) : Prop :=
  ∃ whole frac : List Char, text.toList = whole ++ '.' :: frac ∧ whole ≠ [] ∧
    frac.length = 10 ∧ (∀ c ∈ whole ++ frac, c.isDigit) ∧
    (Nat.ofDigitChars 10 (whole ++ frac) 0 : ℤ) = round (x * (10 ^ 10 : ℕ))

/-- π to ten places, from its first twenty. -/
theorem pi_written_to_ten_places : WrittenToTenPlaces Real.pi "3.1415926536" := by
  refine ⟨['3'], "1415926536".toList, by decide, by simp, by decide, List.all_eq_true.1 rfl, ?_⟩
  have hd : Nat.ofDigitChars 10 (['3'] ++ "1415926536".toList) 0 = 31415926536 := by decide
  have hlow := Real.pi_gt_d20
  have hhigh := Real.pi_lt_d20
  rw [hd, round_eq, eq_comm, Int.floor_eq_iff]
  constructor <;> push_cast <;> linarith

/-- e to ten places, from a rational within `10^-20` of it. -/
theorem exp_one_written_to_ten_places : WrittenToTenPlaces (Real.exp 1) "2.7182818285" := by
  refine ⟨['2'], "7182818285".toList, by decide, by simp, by decide, List.all_eq_true.1 rfl, ?_⟩
  have hd : Nat.ofDigitChars 10 (['2'] ++ "7182818285".toList) 0 = 27182818285 := by decide
  have hnear := abs_le.1 Real.exp_one_near_20
  rw [hd, round_eq, eq_comm, Int.floor_eq_iff]
  constructor <;> push_cast <;> linarith [hnear.1, hnear.2]

/-- τ = 2π to ten places, from the first twenty of π. -/
theorem two_pi_written_to_ten_places : WrittenToTenPlaces (2 • Real.pi) "6.2831853072" := by
  refine ⟨['6'], "2831853072".toList, by decide, by simp, by decide, List.all_eq_true.1 rfl, ?_⟩
  have hd : Nat.ofDigitChars 10 (['6'] ++ "2831853072".toList) 0 = 62831853072 := by decide
  have hlow := Real.pi_gt_d20
  have hhigh := Real.pi_lt_d20
  rw [hd, round_eq, eq_comm, Int.floor_eq_iff, two_nsmul]
  constructor <;> push_cast <;> linarith

/-- The constants table binds `Pi`, `ExponentialE` and `Tau` to their numbers written to ten
places, and nothing else. -/
theorem constants_lookup (n : String) :
    (constants.lookup n = none ∧ constantValue n = none) ∨
      ∃ text x, constants.lookup n = some text ∧ constantValue n = some x ∧
        WrittenToTenPlaces x text := by
  by_cases hpi : n = "Pi"
  · subst hpi
    exact .inr ⟨_, _, rfl, rfl, pi_written_to_ten_places⟩
  by_cases he : n = "ExponentialE"
  · subst he
    exact .inr ⟨_, _, rfl, rfl, exp_one_written_to_ten_places⟩
  by_cases htau : n = "Tau"
  · subst htau
    exact .inr ⟨_, _, rfl, rfl, two_pi_written_to_ten_places⟩
  refine .inl ⟨?_, ?_⟩
  · simp [constants, NameMap.lookup_cons, hpi, he, htau]
  · unfold constantValue
    split <;> simp_all

end Bindings

open Bindings in
/-- Merging and adding the constants are unions biased to the right, each namespace on its
own: a merge answers from the second table and falls back on the first, the constants answer
only where the table has nothing, each the number it names written to ten places, and
overrides never see a constant. Merging is therefore associative with the empty table as
identity on both sides, adding the constants a second time changes nothing, and adding them
after a merge is adding them to the first table before it. -/
theorem merge_constants_right_biased_union (a b c : Bindings) :
    (∀ n, (a.merge b).lookupVar n = (b.lookupVar n).or (a.lookupVar n) ∧
      (a.merge b).lookupOverride n = (b.lookupOverride n).or (a.lookupOverride n)) ∧
    (∀ n, a.withConstants.lookupVar n = (a.lookupVar n).or (constants.lookup n) ∧
      a.withConstants.lookupOverride n = a.lookupOverride n) ∧
    (∀ n, (constants.lookup n = none ∧ constantValue n = none) ∨
      ∃ text x, constants.lookup n = some text ∧ constantValue n = some x ∧
        WrittenToTenPlaces x text) ∧
    (a.merge b).merge c = a.merge (b.merge c) ∧
    Bindings.empty.merge a = a ∧ a.merge Bindings.empty = a ∧
    a.withConstants.withConstants = a.withConstants ∧
    (a.merge b).withConstants = a.withConstants.merge b := by
  refine ⟨fun n => ⟨lookupVar_merge a b n, lookupOverride_merge a b n⟩,
    fun n => ⟨lookupVar_withConstants a n, lookupOverride_withConstants a n⟩, constants_lookup,
    ?_, ?_, ?_, ?_, ?_⟩
  · -- associativity: both sides answer from `c`, then `b`, then `a`
    refine eq_of_lookup_eq (fun n => ?_) (fun n => ?_)
    · simp only [lookupVar_merge, Option.or_assoc]
    · simp only [lookupOverride_merge, Option.or_assoc]
  · refine eq_of_lookup_eq (fun n => ?_) (fun n => ?_)
    · simp [lookupVar_merge]
    · simp [lookupOverride_merge]
  · refine eq_of_lookup_eq (fun n => ?_) (fun n => ?_)
    · simp [lookupVar_merge]
    · simp [lookupOverride_merge]
  · refine eq_of_lookup_eq (fun n => ?_) (fun n => by simp)
    rw [lookupVar_withConstants, lookupVar_withConstants, Option.or_assoc, Option.or_self]
  · refine eq_of_lookup_eq (fun n => ?_) (fun n => ?_)
    · rw [lookupVar_withConstants, lookupVar_merge, lookupVar_merge, lookupVar_withConstants,
        Option.or_assoc]
    · simp [lookupOverride_merge]

end FormulaShader
