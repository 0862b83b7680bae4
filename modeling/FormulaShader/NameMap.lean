/-!
# Maps keyed by name

A `NameMap` holds one value per name, its entries sorted strictly by name, which is the order
in which every listing of it is written. The order is part of the type: every write proves
that it keeps it (`pairwise_insertEntry`). `insert` replaces the value of a name already
present and returns the value it replaced.

Results:
* `NameMap.insert`, `NameMap.insertIfAbsent`, `NameMap.union`: writes that keep the entries
  sorted with each name once.
* `NameMap.find?`: the value of a name.
-/

namespace FormulaShader

/-- Values keyed by name, sorted strictly by name, so each name once. -/
structure NameMap (α : Type) where
  entries : List (String × α)
  sorted : entries.Pairwise (fun a b => a.1 < b.1)
  deriving Repr

namespace NameMap

variable {α : Type}

def empty : NameMap α := ⟨[], .nil⟩

instance : Inhabited (NameMap α) := ⟨empty⟩

/-- The value of a name. -/
def find? (m : NameMap α) (name : String) : Option α := m.entries.lookup name

/-- Writes `value` for `name` into sorted entries. -/
def insertEntry (name : String) (value : α) : List (String × α) → List (String × α)
  | [] => [(name, value)]
  | (k, v) :: rest =>
    if name < k then (name, value) :: (k, v) :: rest
    else if name = k then (name, value) :: rest
    else (k, v) :: insertEntry name value rest

theorem mem_insertEntry {name : String} {value : α} {l : List (String × α)}
    {p : String × α} (h : p ∈ insertEntry name value l) : p = (name, value) ∨ p ∈ l := by
  induction l with
  | nil => simpa [insertEntry] using h
  | cons q rest ih =>
    obtain ⟨k, v⟩ := q
    unfold insertEntry at h
    split at h
    · simpa using h
    · split at h
      · rcases List.mem_cons.1 h with h | h
        · exact .inl h
        · exact .inr (List.mem_cons_of_mem _ h)
      · rcases List.mem_cons.1 h with h | h
        · exact .inr (h ▸ List.mem_cons_self)
        · exact (ih h).imp_right (List.mem_cons_of_mem _)

/-- A write keeps entries sorted: it goes before the first greater name, or replaces an equal
one. -/
theorem pairwise_insertEntry (name : String) (value : α) :
    ∀ {l : List (String × α)}, l.Pairwise (fun a b => a.1 < b.1) →
      (insertEntry name value l).Pairwise fun a b => a.1 < b.1
  | [], _ => by simp [insertEntry]
  | (k, v) :: rest, h => by
    rw [List.pairwise_cons] at h
    unfold insertEntry
    split
    · rename_i hlt
      refine List.Pairwise.cons (fun q hq => ?_) (List.Pairwise.cons h.1 h.2)
      rcases List.mem_cons.1 hq with rfl | hq
      · exact hlt
      · exact String.lt_trans hlt (h.1 q hq)
    · split
      · rename_i heq
        subst heq
        exact List.Pairwise.cons h.1 h.2
      · rename_i hnlt hne
        -- neither below nor equal, so above: the name goes among the rest
        have hk : k < name := Decidable.byContradiction fun hge =>
          hne (String.le_antisymm (String.not_lt.1 hge) (String.not_lt.1 hnlt))
        refine List.Pairwise.cons (fun q hq => ?_) (pairwise_insertEntry name value h.2)
        rcases mem_insertEntry hq with rfl | hq
        · exact hk
        · exact h.1 q hq

theorem pairwise_foldl_insertEntry (l : List (String × α)) :
    ∀ {acc : List (String × α)}, acc.Pairwise (fun a b => a.1 < b.1) →
      (l.foldl (fun acc e => insertEntry e.1 e.2 acc) acc).Pairwise fun a b => a.1 < b.1 := by
  induction l with
  | nil => exact id
  | cons p rest ih => exact fun h => ih (pairwise_insertEntry p.1 p.2 h)

/-- Writes `value` for `name`, replacing an earlier value, which is returned. -/
def insert (m : NameMap α) (name : String) (value : α) : Option α × NameMap α :=
  (m.find? name, ⟨insertEntry name value m.entries, pairwise_insertEntry name value m.sorted⟩)

/-- Writes `value` for `name` unless the name has a value already. -/
def insertIfAbsent (m : NameMap α) (name : String) (value : α) : NameMap α :=
  match m.find? name with
  | some _ => m
  | none => (m.insert name value).2

/-- The entries of both maps; where both have a name, the value of `other`. -/
def union (m other : NameMap α) : NameMap α :=
  ⟨other.entries.foldl (fun acc e => insertEntry e.1 e.2 acc) m.entries,
    pairwise_foldl_insertEntry other.entries m.sorted⟩

end NameMap

end FormulaShader
