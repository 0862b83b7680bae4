import FormulaShader.Template.Parse

/-!
# Reading template text

Template text is read left to right one item at a time. An item is a doubled brace, which
stands for one literal brace; a slot, an opening brace, then contents that hold no closing
brace and do not begin with an opening one, then the closing brace; or any other character,
which stands for itself. A slot's contents, trimmed of white space, must be an optional `+`
and decimal digits of value at most 255: that value is the number of the operand it stands for.

Reading stops at the first item that is malformed: a lone closing brace, an opening brace never
closed, or a slot whose contents name no operand. Each is reported with the byte offset of its
brace, or with the slot's contents. Text read to its end must use every slot number below the
highest one; the first number it skips is reported. Otherwise the template is the text, its
pieces the items with each maximal run of characters joined into one text, and its arity one
more than its highest slot number.

Results:
* `Template.Reads`: the items of a text, as a relation between item lists and characters.
* `Template.Reading`: the outcome the rules above give a text.
* `Template.group`: the pieces items make; `group_canonical`, `group_items` say they are the
  only canonical pieces with those items.
* `scan_of_reads`, `scan_of_fault`, `scan_outcome`: the scanner follows the items.
* `parse_eq_iff_reading`: reading a template gives exactly the outcome of the rules, and its
  rendering puts each operand in place of its slots and each brace once.
-/

namespace FormulaShader

namespace Pieces

/-- A fold that keeps the larger of its count and each piece's own count may start from zero
and take the larger at the end. -/
theorem foldl_max_start {f : Nat → Piece → Nat} (hf : ∀ n p, f n p = max n (f 0 p)) :
    ∀ (n : Nat) (ps : Pieces), ps.foldl f n = max n (ps.foldl f 0)
  | n, [] => by simp
  | n, p :: ps => by
    rw [List.foldl_cons, List.foldl_cons, foldl_max_start hf _ ps, foldl_max_start hf (f 0 p) ps,
      hf n p, Nat.max_assoc]

@[simp] theorem slotCount_nil : slotCount [] = 0 := rfl

@[simp] theorem slotCount_slot (i : Nat) (ps : Pieces) :
    slotCount (.slot i :: ps) = max (i + 1) ps.slotCount := by
  simp only [slotCount, List.foldl_cons]
  rw [foldl_max_start (fun n p => by cases p <;> simp)]
  simp

@[simp] theorem slotCount_text (s : String) (ps : Pieces) :
    slotCount (.text s :: ps) = ps.slotCount := by
  simp [slotCount]

theorem lt_slotCount {ps : Pieces} {i : Nat} (h : Piece.slot i ∈ ps) : i < slotCount ps := by
  induction ps with
  | nil => simp at h
  | cons p ps ih =>
    rcases List.mem_cons.1 h with rfl | hmem
    · simp only [slotCount_slot]
      omega
    · have := ih hmem
      cases p with
      | text s => simpa using this
      | slot j =>
        simp only [slotCount_slot]
        omega

theorem slotCount_eq_zero_or_mem (ps : Pieces) :
    slotCount ps = 0 ∨ Piece.slot (slotCount ps - 1) ∈ ps := by
  induction ps with
  | nil => simp
  | cons p ps ih =>
    cases p with
    | text s => simpa using ih
    | slot i =>
      right
      by_cases hle : slotCount ps ≤ i + 1
      · simp [Nat.max_eq_left hle]
      · rcases ih with h | h
        · omega
        · simp [Nat.max_eq_right (by omega : i + 1 ≤ slotCount ps), h]

theorem slotCount_eq_of_slots {ps : Pieces} {k : Nat} (h : ∀ i, Piece.slot i ∈ ps ↔ i < k) :
    slotCount ps = k := by
  have hge : k ≤ slotCount ps := by
    rcases Nat.eq_zero_or_pos k with hk | hk
    · omega
    · have := lt_slotCount ((h (k - 1)).2 (by omega))
      omega
  rcases slotCount_eq_zero_or_mem ps with h0 | hmem
  · omega
  · have := (h _).1 hmem
    omega

end Pieces

namespace Template

theorem firstMissing_eq_none_iff {ps : Pieces} {k : Nat} :
    firstMissing ps k = none ↔ ∀ i < k, Piece.slot i ∈ ps := by
  simp [firstMissing]

theorem firstMissing_eq_some_iff {ps : Pieces} {k i : Nat} :
    firstMissing ps k = some i ↔ i < k ∧ Piece.slot i ∉ ps ∧ ∀ j < i, Piece.slot j ∈ ps := by
  simp only [firstMissing, List.find?_range_eq_some, List.mem_range]
  simp [and_left_comm]

theorem parse_eq (s : String) : parse s = (scan 0 [] [] s.toList).bind fun ps =>
    match firstMissing ps ps.slotCount with
    | some i => .error (.missingSlot i)
    | none => .ok ⟨s, ps, ps.slotCount⟩ := rfl

theorem parse_slot_iff {s : String} {t : Template} (h : parse s = .ok t) (i : Nat) :
    Piece.slot i ∈ t.pieces ↔ i < t.arity := by
  rw [parse_eq] at h
  cases hscan : scan 0 [] [] s.toList with
  | error e => simp [hscan, Except.bind] at h
  | ok ps =>
    simp only [hscan, Except.bind] at h
    cases hmiss : firstMissing ps ps.slotCount with
    | some j => simp [hmiss] at h
    | none =>
      simp only [hmiss, Except.ok.injEq] at h
      subst h
      exact ⟨Pieces.lt_slotCount, firstMissing_eq_none_iff.1 hmiss i⟩

/-! ## Items -/

/-- One item of template text as it is read: a character of text, or the slot of an operand. -/
inductive Item where
  | char (c : Char)
  | slot (index : Nat)
  deriving DecidableEq, Repr


/-- A slot's contents name operand `n`: trimmed of white space they are an optional `+` and a
nonempty run of decimal digits, whose value `n` is at most 255. -/
def SlotNumber (body : List Char) (n : Nat) : Prop :=
  ∃ ds, (trimWhiteSpace body = ds ∨ trimWhiteSpace body = '+' :: ds) ∧ ds ≠ [] ∧
    (∀ d ∈ ds, d.isDigit) ∧ Nat.ofDigitChars 10 ds 0 = n ∧ n ≤ maxSlot

theorem foldl_digits (ds : List Char) :
    ds.foldl (fun acc d => acc * 10 + (d.toNat - '0'.toNat)) 0 = Nat.ofDigitChars 10 ds 0 := by
  simp only [Nat.ofDigitChars, Nat.mul_comm]

/-- The digits of a slot name their value when they are a nonempty run of decimal digits and
the value is at most 255. -/
theorem slotIndex_digits {ds : List Char} {n : Nat} :
    (if ds ≠ [] ∧ ds.all Char.isDigit then
      (if ds.foldl (fun acc d => acc * 10 + (d.toNat - '0'.toNat)) 0 ≤ maxSlot then
        some (ds.foldl (fun acc d => acc * 10 + (d.toNat - '0'.toNat)) 0) else none)
     else none) = some n ↔
    ds ≠ [] ∧ (∀ d ∈ ds, d.isDigit) ∧ Nat.ofDigitChars 10 ds 0 = n ∧ n ≤ maxSlot := by
  rw [foldl_digits]
  by_cases hds : ds ≠ [] ∧ ds.all Char.isDigit
  · rw [if_pos hds]
    have hdig : ∀ d ∈ ds, d.isDigit := List.all_eq_true.1 hds.2
    by_cases hle : Nat.ofDigitChars 10 ds 0 ≤ maxSlot
    · rw [if_pos hle, Option.some.injEq]
      exact ⟨fun h => ⟨hds.1, hdig, h, h ▸ hle⟩, fun h => h.2.2.1⟩
    · rw [if_neg hle]
      constructor
      · intro h
        cases h
      · rintro ⟨-, -, rfl, h⟩
        exact absurd h hle
  · rw [if_neg hds]
    constructor
    · intro h
      cases h
    · rintro ⟨hne, hdig, -⟩
      exact absurd ⟨hne, List.all_eq_true.2 hdig⟩ hds

theorem slotIndex?_eq_some_iff {body : List Char} {n : Nat} :
    slotIndex? body = some n ↔ SlotNumber body n := by
  unfold slotIndex? SlotNumber
  split
  · rename_i ds htrim
    simp only [slotIndex_digits, htrim]
    constructor
    · rintro ⟨hne, hdig, hn, hle⟩
      exact ⟨ds, .inr rfl, hne, hdig, hn, hle⟩
    · rintro ⟨ds', hds' | hds', hne, hdig, hn, hle⟩
      · have := hdig '+' (by simp [← hds'])
        simp at this
      · cases hds'
        exact ⟨hne, hdig, hn, hle⟩
  · rename_i t hnot
    simp only [slotIndex_digits]
    constructor
    · rintro ⟨hne, hdig, hn, hle⟩
      exact ⟨_, .inl rfl, hne, hdig, hn, hle⟩
    · rintro ⟨ds', hds' | hds', hne, hdig, hn, hle⟩
      · subst hds'
        exact ⟨hne, hdig, hn, hle⟩
      · exact absurd hds' (hnot ds')
theorem slotIndex?_eq_none_iff {body : List Char} :
    slotIndex? body = none ↔ ∀ n, ¬ SlotNumber body n := by
  simp only [← slotIndex?_eq_some_iff, Option.eq_none_iff_forall_ne_some]

def slotBound : List Item → Nat
  | [] => 0
  | .slot i :: its => max (i + 1) (slotBound its)
  | .char _ :: its => slotBound its

def Item.fill (args : List String) : Item → List Char
  | .char c => [c]
  | .slot i => (Pieces.operand args i).toList

end Template

namespace Pieces

open Template (Item)

def items : Pieces → List Item
  | [] => []
  | .text s :: ps => s.toList.map .char ++ items ps
  | .slot i :: ps => .slot i :: items ps

/-- Pieces in canonical form: every text is nonempty and is followed by a slot or by nothing,
so no two texts stand side by side. -/
inductive Canonical : Pieces → Prop
  | nil : Canonical []
  | slot (i : Nat) {ps : Pieces} : Canonical ps → Canonical (.slot i :: ps)
  | text {s : String} : s ≠ "" → Canonical [.text s]
  | textSlot {s : String} (i : Nat) {ps : Pieces} :
      s ≠ "" → Canonical ps → Canonical (.text s :: .slot i :: ps)

theorem canonical_iff {ps : Pieces} : ps.Canonical ↔
    (∀ s, Piece.text s ∈ ps → s ≠ "") ∧
      ∀ (j : Nat) (s s' : String), ps[j]? = some (.text s) → ps[j + 1]? ≠ some (.text s') := by
  constructor
  · intro h
    induction h with
    | nil => simp
    | slot i _ ih =>
      refine ⟨fun s hs => ih.1 s (by simpa using hs), fun j s s' hj => ?_⟩
      cases j with
      | zero => simp at hj
      | succ j => simpa using ih.2 j s s' (by simpa using hj)
    | text hne =>
      refine ⟨fun s hs => by simp_all, fun j s s' _ => ?_⟩
      simp
    | textSlot i hne _ ih =>
      refine ⟨fun s hs => ?_, fun j s s' hj => ?_⟩
      · simp only [List.mem_cons, Piece.text.injEq, reduceCtorEq, false_or] at hs
        rcases hs with rfl | hs
        · exact hne
        · exact ih.1 s hs
      · match j with
        | 0 => simp
        | 1 => simp at hj
        | j + 2 => simpa using ih.2 j s s' (by simpa using hj)
  · rintro ⟨htexts, hadj⟩
    induction ps with
    | nil => exact .nil
    | cons p ps ih =>
      have ih' := ih (fun s hs => htexts s (List.mem_cons_of_mem p hs))
        (fun j s s' hj => by simpa using hadj (j + 1) s s' (by simpa using hj))
      cases p with
      | slot i => exact .slot i ih'
      | text s =>
        have hne : s ≠ "" := htexts s List.mem_cons_self
        cases ps with
        | nil => exact .text hne
        | cons q ps =>
          cases q with
          | text s' => exact absurd (by simp) (hadj 0 s s' (by simp))
          | slot i =>
            cases ih' with
            | slot _ hrest => exact .textSlot i hne hrest
theorem slot_mem_iff_items {ps : Pieces} {i : Nat} : Piece.slot i ∈ ps ↔ Item.slot i ∈ ps.items := by
  induction ps with
  | nil => simp [items]
  | cons p ps ih => cases p <;> simp [items, ih]

theorem slotCount_eq_slotBound (ps : Pieces) : ps.slotCount = Template.slotBound ps.items := by
  induction ps with
  | nil => rfl
  | cons p ps ih =>
    cases p with
    | text s =>
      have hchars : ∀ cs : List Char, Template.slotBound (cs.map .char ++ items ps) =
          Template.slotBound (items ps) := by
        intro cs
        induction cs with
        | nil => rfl
        | cons c cs ihc => simpa [Template.slotBound] using ihc
      simp [items, hchars, ih]
    | slot i => simp [items, Template.slotBound, ih]

theorem render_toList (ps : Pieces) (args : List String) :
    (ps.render args).toList = ps.items.flatMap (Item.fill args) := by
  induction ps with
  | nil => simp [render, items]
  | cons p ps ih =>
    simp only [render, String.toList_join] at ih
    cases p with
    | text s =>
      -- a character of text fills as itself
      have hchars : ∀ cs : List Char, (cs.map Item.char).flatMap (Item.fill args) = cs := by
        intro cs
        induction cs with
        | nil => rfl
        | cons c cs ihc => simp [Item.fill, ihc]
      simp [render, items, ih, hchars]
    | slot i => simp [render, items, Item.fill, ih]

end Pieces

namespace Template

open Pieces (Canonical items)

def textRun (cs : List Char) : Pieces := if cs = [] then [] else [.text (String.ofList cs)]

/-- The pieces items make: each slot a piece, each maximal run of characters one text. -/
def group : List Item → Pieces
  | [] => []
  | .slot i :: its => .slot i :: group its
  | .char c :: its =>
    match group its with
    | .text s :: ps => .text (String.ofList (c :: s.toList)) :: ps
    | ps => .text (String.ofList [c]) :: ps

theorem group_chars (cs : List Char) : group (cs.map .char) = textRun cs := by
  induction cs with
  | nil => simp [group, textRun]
  | cons c cs ih =>
    rw [List.map_cons, group, ih]
    cases cs with
    | nil => simp [textRun]
    | cons c' cs => simp [textRun]

theorem group_chars_slot (cs : List Char) (i : Nat) (its : List Item) :
    group (cs.map .char ++ .slot i :: its) = textRun cs ++ .slot i :: group its := by
  induction cs with
  | nil => simp [group, textRun]
  | cons c cs ih =>
    rw [List.map_cons, List.cons_append, group, ih]
    cases cs with
    | nil => simp [textRun]
    | cons c' cs => simp [textRun]

theorem items_group (its : List Item) : (group its).items = its := by
  induction its with
  | nil => rfl
  | cons it its ih =>
    cases it with
    | slot i => simp [group, items, ih]
    | char c =>
      rw [group]
      split
      · rename_i s ps hgroup
        rw [hgroup] at ih
        simp only [items, String.toList_ofList, List.map_cons, List.cons_append] at ih ⊢
        rw [ih]
      · simp [items, ih]

theorem group_canonical (its : List Item) : (group its).Canonical := by
  induction its with
  | nil => exact .nil
  | cons it its ih =>
    cases it with
    | slot i => exact .slot i ih
    | char c =>
      rw [group]
      split
      · rename_i s ps hgroup
        rw [hgroup] at ih
        -- the character joins the text that starts the rest
        have hne : String.ofList (c :: s.toList) ≠ "" := by
          simp [← String.toList_inj]
        cases ih with
        | text _ => exact .text hne
        | textSlot i _ hps => exact .textSlot i hne hps
      · rename_i ps hnot
        have hne : String.ofList [c] ≠ "" := by simp [← String.toList_inj]
        cases hps : group its with
        | nil => exact .text hne
        | cons p ps' =>
          cases p with
          | text s => exact absurd hps (hnot s ps')
          | slot i =>
            rw [hps] at ih
            cases ih with
            | slot _ hrest => exact .textSlot i hne hrest

/-- Canonical pieces are the pieces their items make. -/
theorem group_items {ps : Pieces} (h : ps.Canonical) : group ps.items = ps := by
  induction h with
  | nil => rfl
  | slot i _ ih => simp [items, group, ih]
  | @text s hne =>
    have hcs : s.toList ≠ [] := by simpa [String.toList_eq_nil_iff] using hne
    simp [items, group_chars, textRun, hcs]
  | @textSlot s i _ hne _ ih =>
    have hcs : s.toList ≠ [] := by simpa [String.toList_eq_nil_iff] using hne
    simp [items, group_chars_slot, textRun, hcs, ih]

/-! ## The item grammar -/

/-- Template text read as items, left to right: a character other than a brace stands for
itself, a doubled brace for one brace, and a slot is an opening brace, contents that do not
begin with an opening brace and hold no closing one, and a closing brace, the contents naming
the slot's operand. -/
inductive Reads : List Item → List Char → Prop
  | nil : Reads [] []
  | char {c : Char} {its : List Item} {w : List Char} :
      c ≠ '{' → c ≠ '}' → Reads its w → Reads (.char c :: its) (c :: w)
  | openBrace {its : List Item} {w : List Char} :
      Reads its w → Reads (.char '{' :: its) ('{' :: '{' :: w)
  | closeBrace {its : List Item} {w : List Char} :
      Reads its w → Reads (.char '}' :: its) ('}' :: '}' :: w)
  | slot {body : List Char} {i : Nat} {its : List Item} {w : List Char} :
      body.head? ≠ some '{' → '}' ∉ body → SlotNumber body i → Reads its w →
        Reads (.slot i :: its) ('{' :: body ++ '}' :: w)

/-- A malformed item at the head of the text, with the error that reports it when it stands at
byte `offset`: a closing brace not doubled; an opening brace not doubled and never closed; a
slot whose contents name no operand. -/
inductive Fault (offset : Nat) : List Char → TemplateError → Prop
  | stray {r : List Char} : r.head? ≠ some '}' → Fault offset ('}' :: r) (.strayBrace offset)
  | unclosed {r : List Char} :
      r.head? ≠ some '{' → '}' ∉ r → Fault offset ('{' :: r) (.unclosedSlot offset)
  | badSlot {body r : List Char} :
      body.head? ≠ some '{' → '}' ∉ body → (∀ n, ¬ SlotNumber body n) →
        Fault offset ('{' :: body ++ '}' :: r) (.badSlot (String.ofList body))

/-- The outcome the reading rules give template text `s`: the error of the first malformed
item, at the byte offset where it stands; else, when a slot number below the highest is unused,
the least such number; else the template of the text, its pieces the canonical pieces of the
items and its arity one more than the highest slot number. -/
inductive Reading (s : String) : Except TemplateError Template → Prop
  | fault {its : List Item} {p tail : List Char} {e : TemplateError} :
      Reads its p → s.toList = p ++ tail → Fault (utf8Length p) tail e → Reading s (.error e)
  | missing {its : List Item} {i : Nat} :
      Reads its s.toList → i < slotBound its → Item.slot i ∉ its →
        (∀ j < i, Item.slot j ∈ its) → Reading s (.error (.missingSlot i))
  | ok {its : List Item} {t : Template} :
      Reads its s.toList → (∀ i < slotBound its, Item.slot i ∈ its) → t.source = s →
        t.arity = slotBound its → t.pieces.Canonical → t.pieces.items = its → Reading s (.ok t)

/-! ## The scanner follows the items -/

theorem utf8Length_doubled {c : Char} (hc : c = '{' ∨ c = '}') (w : List Char) :
    utf8Length (c :: c :: w) = 2 + utf8Length w := by
  have hsize : c.utf8Size = 1 := by rcases hc with rfl | rfl <;> rfl
  simp only [utf8Length_cons, hsize]
  omega

theorem utf8Length_slot (body w : List Char) :
    utf8Length ('{' :: body ++ '}' :: w) = utf8Length body + 2 + utf8Length w := by
  have hopen : Char.utf8Size '{' = 1 := rfl
  have hclose : Char.utf8Size '}' = 1 := rfl
  simp only [List.cons_append, utf8Length_cons, utf8Length_append, hopen, hclose]
  omega

theorem slotBody_append {body : List Char} (hbody : '}' ∉ body) (w : List Char) :
    slotBody (body ++ '}' :: w) = some (body, w) := by
  induction body with
  | nil => simp [slotBody]
  | cons c body ih =>
    have hc : c ≠ '}' := fun h => hbody (h ▸ List.mem_cons_self)
    simp [slotBody, hc, ih (fun h => hbody (List.mem_cons_of_mem c h))]

theorem slotBody_eq_none {r : List Char} (hr : '}' ∉ r) : slotBody r = none := by
  induction r with
  | nil => rfl
  | cons c r ih =>
    have hc : c ≠ '}' := fun h => hr (h ▸ List.mem_cons_self)
    simp [slotBody, hc, ih (fun h => hr (List.mem_cons_of_mem c h))]

theorem eq_of_slotBody {r body w : List Char} (h : slotBody r = some (body, w)) :
    r = body ++ '}' :: w ∧ '}' ∉ body := by
  induction r generalizing body with
  | nil => simp [slotBody] at h
  | cons c r ih =>
    simp only [slotBody] at h
    split at h
    · rename_i hc
      cases h
      simp [hc]
    · rename_i hc
      obtain ⟨⟨b, w'⟩, hb, he⟩ := Option.map_eq_some_iff.1 h
      simp only [Prod.mk.injEq] at he
      obtain ⟨rfl, rfl⟩ := he
      obtain ⟨rfl, hnot⟩ := ih hb
      simp [Ne.symm hc, hnot]

theorem not_mem_of_slotBody_eq_none {r : List Char} (h : slotBody r = none) : '}' ∉ r := by
  induction r with
  | nil => simp
  | cons c r ih =>
    simp only [slotBody] at h
    split at h
    · cases h
    · rename_i hc
      simp only [Option.map_eq_none_iff] at h
      simp [Ne.symm hc, ih h]

theorem scan_char {c : Char} (h1 : c ≠ '{') (h2 : c ≠ '}') (o : Nat) (text : List Char)
    (acc : List Piece) (w : List Char) :
    scan o text acc (c :: w) = scan (o + c.utf8Size) (c :: text) acc w :=
  scan.eq_6 o text acc c w (fun _ h _ => h1 h) h1 (fun _ h _ => h2 h) h2

/-- At a slot whose contents hold no closing brace, the scanner reads the slot number of the
contents, or reports the contents. -/
theorem scan_closed_slot {body : List Char} (hhead : body.head? ≠ some '{') (hbody : '}' ∉ body)
    (o : Nat) (text : List Char) (acc : List Piece) (w : List Char) :
    scan o text acc ('{' :: body ++ '}' :: w) = match slotIndex? body with
      | none => .error (.badSlot (String.ofList body))
      | some i => scan (o + utf8Length body + 2) [] (.slot i :: flush text acc) w := by
  rw [List.cons_append, scan.eq_3 _ _ _ _ (fun after h => hhead (by cases body <;> simp_all))]
  split
  · rename_i h; rw [slotBody_append hbody] at h; cases h
  · rename_i body' w' h
    rw [slotBody_append hbody] at h
    cases h
    rfl

theorem scan_slot {body : List Char} {i : Nat} (hhead : body.head? ≠ some '{') (hbody : '}' ∉ body)
    (hi : slotIndex? body = some i) (o : Nat) (text : List Char) (acc : List Piece) (w : List Char) :
    scan o text acc ('{' :: body ++ '}' :: w) =
      scan (o + utf8Length body + 2) [] (.slot i :: flush text acc) w := by
  rw [scan_closed_slot hhead hbody, hi]

theorem scan_unclosed {r : List Char} (hhead : r.head? ≠ some '{') (hr : '}' ∉ r) (o : Nat)
    (text : List Char) (acc : List Piece) :
    scan o text acc ('{' :: r) = .error (.unclosedSlot o) := by
  rw [scan.eq_3 _ _ _ _ (fun after h => hhead (by simp [h]))]
  split
  · rfl
  · rename_i body' w' h
    rw [slotBody_eq_none hr] at h
    cases h

theorem scan_badSlot {body : List Char} (hhead : body.head? ≠ some '{') (hbody : '}' ∉ body)
    (hi : slotIndex? body = none) (o : Nat) (text : List Char) (acc : List Piece) (w : List Char) :
    scan o text acc ('{' :: body ++ '}' :: w) = .error (.badSlot (String.ofList body)) := by
  rw [scan_closed_slot hhead hbody, hi]

theorem scan_stray {r : List Char} (hhead : r.head? ≠ some '}') (o : Nat) (text : List Char)
    (acc : List Piece) : scan o text acc ('}' :: r) = .error (.strayBrace o) :=
  scan.eq_5 o text acc r (fun after h => hhead (by simp [h]))

theorem flush_reverse (text : List Char) (acc : List Piece) :
    (flush text acc).reverse = acc.reverse ++ textRun text.reverse := by
  by_cases h : text = [] <;> simp [flush, textRun, h]

/-- Text read to its end as items: the scanner ends with the pieces it had, then the pieces of
its pending characters followed by the items. The induction follows the items, one scanner step
each. -/
theorem scan_of_reads {its : List Item} {w : List Char} (h : Reads its w) :
    ∀ (o : Nat) (text : List Char) (acc : List Piece),
      scan o text acc w = .ok (acc.reverse ++ group (text.reverse.map .char ++ its)) := by
  induction h with
  | nil =>
    intro o text acc
    rw [scan.eq_1, flush_reverse, List.append_nil, group_chars]
  | char h1 h2 _ ih =>
    intro o text acc
    rw [scan_char h1 h2, ih]
    simp
  | openBrace _ ih =>
    intro o text acc
    rw [scan.eq_2, ih]
    simp
  | closeBrace _ ih =>
    intro o text acc
    rw [scan.eq_4, ih]
    simp
  | slot hhead hbody hi _ ih =>
    intro o text acc
    rw [scan_slot hhead hbody (slotIndex?_eq_some_iff.2 hi), ih, group_chars_slot]
    simp [flush_reverse]

theorem scan_of_fault_head {o : Nat} {tail : List Char} {e : TemplateError} (h : Fault o tail e)
    (text : List Char) (acc : List Piece) : scan o text acc tail = .error e := by
  cases h with
  | stray hhead => exact scan_stray hhead o text acc
  | unclosed hhead hr => exact scan_unclosed hhead hr o text acc
  | badSlot hhead hbody hbad =>
    exact scan_badSlot hhead hbody (slotIndex?_eq_none_iff.2 hbad) o text acc _

/-- Text read as items up to a malformed one: the scanner stops there, with the error of the
malformed item at its offset. -/
theorem scan_of_fault {its : List Item} {p : List Char} (h : Reads its p) {tail : List Char}
    {e : TemplateError} :
    ∀ (o : Nat) (text : List Char) (acc : List Piece), Fault (o + utf8Length p) tail e →
      scan o text acc (p ++ tail) = .error e := by
  induction h with
  | nil =>
    intro o text acc hf
    exact scan_of_fault_head hf text acc
  | @char c _ w h1 h2 _ ih =>
    intro o text acc hf
    rw [List.cons_append, scan_char h1 h2]
    exact ih _ _ _ (by simpa [Nat.add_assoc] using hf)
  | @openBrace _ w _ ih =>
    intro o text acc hf
    rw [List.cons_append, List.cons_append, scan.eq_2]
    rw [utf8Length_doubled (.inl rfl), ← Nat.add_assoc] at hf
    exact ih _ _ _ hf
  | @closeBrace _ w _ ih =>
    intro o text acc hf
    rw [List.cons_append, List.cons_append, scan.eq_4]
    rw [utf8Length_doubled (.inr rfl), ← Nat.add_assoc] at hf
    exact ih _ _ _ hf
  | @slot body i _ w hhead hbody hi _ ih =>
    intro o text acc hf
    simp only [List.cons_append, List.append_assoc]
    show scan o text acc (('{' :: body) ++ '}' :: (w ++ tail)) = _
    rw [scan_slot hhead hbody (slotIndex?_eq_some_iff.2 hi)]
    rw [utf8Length_slot, ← Nat.add_assoc] at hf
    exact ih _ _ _ hf

/-- What a scan's result says of the text it read: pieces are those it had, then those of its
pending characters followed by the items the whole text reads as; an error is that of a
malformed item, after items that read well, at its offset. -/
def ScanOutcome (o : Nat) (text : List Char) (acc : List Piece) (w : List Char) :
    Except TemplateError Pieces → Prop
  | .ok ps => ∃ its, Reads its w ∧ ps = acc.reverse ++ group (text.reverse.map .char ++ its)
  | .error e => ∃ its p tail, Reads its p ∧ w = p ++ tail ∧ Fault (o + utf8Length p) tail e

namespace ScanOutcome

variable {o : Nat} {text : List Char} {acc : List Piece} {r : Except TemplateError Pieces}

theorem char_step {c : Char} (sp : List Char) {w : List Char}
    (hsp : ∀ its w, Reads its w → Reads (.char c :: its) (sp ++ w))
    (h : ScanOutcome (o + utf8Length sp) (c :: text) acc w r) :
    ScanOutcome o text acc (sp ++ w) r := by
  cases r with
  | ok ps =>
    obtain ⟨its, hr, rfl⟩ := h
    exact ⟨.char c :: its, hsp its w hr, by simp⟩
  | error e =>
    obtain ⟨its, p, tail, hr, rfl, hf⟩ := h
    exact ⟨.char c :: its, sp ++ p, tail, hsp its p hr, by simp,
      by simpa [Nat.add_assoc] using hf⟩

theorem slot_step {body w : List Char} {i : Nat} (hhead : body.head? ≠ some '{')
    (hbody : '}' ∉ body) (hi : SlotNumber body i)
    (h : ScanOutcome (o + utf8Length body + 2) [] (.slot i :: flush text acc) w r) :
    ScanOutcome o text acc ('{' :: body ++ '}' :: w) r := by
  cases r with
  | ok ps =>
    obtain ⟨its, hr, rfl⟩ := h
    refine ⟨.slot i :: its, .slot hhead hbody hi hr, ?_⟩
    rw [group_chars_slot]
    simp [flush_reverse]
  | error e =>
    obtain ⟨its, p, tail, hr, rfl, hf⟩ := h
    refine ⟨.slot i :: its, '{' :: body ++ '}' :: p, tail, .slot hhead hbody hi hr, by simp, ?_⟩
    rwa [utf8Length_slot, ← Nat.add_assoc]

theorem fault {tail : List Char} {e : TemplateError} (h : Fault o tail e) :
    ScanOutcome o text acc tail (.error e) :=
  ⟨[], [], tail, .nil, rfl, by simpa using h⟩

end ScanOutcome

theorem head_ne_of_not_cons {c : Char} {l : List Char} (h : ∀ after, l = c :: after → False) :
    l.head? ≠ some c := by
  cases l with
  | nil => simp
  | cons d l =>
    intro hd
    simp only [List.head?_cons, Option.some.injEq] at hd
    exact h l (by rw [hd])

theorem head_ne_of_slot {body w : List Char}
    (h : ∀ after, body ++ '}' :: w = '{' :: after → False) : body.head? ≠ some '{' := by
  cases body with
  | nil => simp
  | cons d body => simpa using head_ne_of_not_cons h

/-- Whatever the scanner returns means what `ScanOutcome` says. The induction follows the
scanner's own cases; each step is one of `ScanOutcome.char_step`, `slot_step` and `fault`. -/
theorem scan_outcome (o : Nat) (text : List Char) (acc : List Piece) (w : List Char) :
    ScanOutcome o text acc w (scan o text acc w) := by
  fun_induction scan o text acc w with
  | case1 o text acc =>
    exact ⟨[], .nil, by rw [flush_reverse, List.append_nil, group_chars]⟩
  | case2 o text acc after ih =>
    exact ScanOutcome.char_step ['{', '{'] (fun _ _ h => .openBrace h) ih
  | case3 o text acc rest hnot hnone =>
    exact .fault (.unclosed (head_ne_of_not_cons hnot) (not_mem_of_slotBody_eq_none hnone))
  | case4 o text acc rest hnot body after hsome _ hnone =>
    obtain ⟨rfl, hbody⟩ := eq_of_slotBody hsome
    exact .fault (.badSlot (head_ne_of_slot hnot) hbody (slotIndex?_eq_none_iff.1 hnone))
  | case5 o text acc rest hnot body after hsome _ i hi ih =>
    obtain ⟨rfl, hbody⟩ := eq_of_slotBody hsome
    exact ScanOutcome.slot_step (head_ne_of_slot hnot) hbody (slotIndex?_eq_some_iff.1 hi) ih
  | case6 o text acc after ih =>
    exact ScanOutcome.char_step ['}', '}'] (fun _ _ h => .closeBrace h) ih
  | case7 o text acc tail hnot =>
    exact .fault (.stray (head_ne_of_not_cons hnot))
  | case8 o text acc c rest _ h1 _ h2 ih =>
    exact ScanOutcome.char_step [c] (fun _ _ h => .char h1 h2 h) ih

/-! ## Reading a template -/

theorem slot_mem_group {its : List Item} {i : Nat} :
    Piece.slot i ∈ group its ↔ Item.slot i ∈ its := by
  rw [Pieces.slot_mem_iff_items, items_group]

theorem slotCount_group (its : List Item) : (group its).slotCount = slotBound its := by
  rw [Pieces.slotCount_eq_slotBound, items_group]

/-- Text that reads to its end as items is a template, unless a slot number below the highest
is skipped. -/
theorem parse_of_reads {s : String} {its : List Item} (h : Reads its s.toList) :
    parse s = match firstMissing (group its) (slotBound its) with
      | some i => .error (.missingSlot i)
      | none => .ok ⟨s, group its, slotBound its⟩ := by
  have hscan := scan_of_reads h 0 [] []
  simp only [List.reverse_nil, List.map_nil, List.nil_append] at hscan
  rw [parse_eq, hscan]
  simp only [Except.bind, slotCount_group]

theorem parse_of_fault {s : String} {its : List Item} {p tail : List Char} {e : TemplateError}
    (h : Reads its p) (hs : s.toList = p ++ tail) (hf : Fault (utf8Length p) tail e) :
    parse s = .error e := by
  rw [parse_eq, hs, scan_of_fault h 0 [] [] (by simpa using hf)]
  rfl

theorem parse_of_reading {s : String} {r : Except TemplateError Template} (h : Reading s r) :
    parse s = r := by
  cases h with
  | fault hreads hs hf => exact parse_of_fault hreads hs hf
  | @missing its i hreads hlt hnot hbelow =>
    have hmiss : firstMissing (group its) (slotBound its) = some i :=
      firstMissing_eq_some_iff.2
        ⟨hlt, by rwa [slot_mem_group], fun j hj => slot_mem_group.2 (hbelow j hj)⟩
    rw [parse_of_reads hreads, hmiss]
  | @ok its t hreads hall hsource harity hcanon hitems =>
    have hnone : firstMissing (group its) (slotBound its) = none :=
      firstMissing_eq_none_iff.2 fun i hi => slot_mem_group.2 (hall i hi)
    rw [parse_of_reads hreads, hnone]
    -- the only canonical pieces with these items are the ones the items make
    have hpieces : group its = t.pieces := hitems ▸ group_items hcanon
    cases t
    simp_all

theorem reading_parse (s : String) : Reading s (parse s) := by
  have hout := scan_outcome 0 [] [] s.toList
  cases hscan : scan 0 [] [] s.toList with
  | error e =>
    rw [hscan] at hout
    obtain ⟨its, p, tail, hreads, hs, hf⟩ := hout
    rw [Nat.zero_add] at hf
    rw [parse_of_fault hreads hs hf]
    exact .fault hreads hs hf
  | ok ps =>
    rw [hscan] at hout
    obtain ⟨its, hreads, -⟩ := hout
    rw [parse_of_reads hreads]
    cases hmiss : firstMissing (group its) (slotBound its) with
    | some i =>
      obtain ⟨hlt, hnot, hbelow⟩ := firstMissing_eq_some_iff.1 hmiss
      exact .missing hreads hlt (by rwa [slot_mem_group] at hnot)
        fun j hj => slot_mem_group.1 (hbelow j hj)
    | none =>
      exact .ok hreads (fun i hi => slot_mem_group.1 (firstMissing_eq_none_iff.1 hmiss i hi))
        rfl rfl (group_canonical its) (items_group its)

/-- Reading template text follows the item rules exactly: it reports the first malformed item
with its byte offset or contents, then the least slot number skipped below the highest, and
otherwise gives the template of the text, whose arity is one more than its highest slot number
and whose pieces are the canonical pieces of its items. Rendering that template puts each
character of text once, each doubled brace as one brace, and each slot's operand in its
place. -/
theorem parse_eq_iff_reading (s : String) :
    (∀ r, parse s = r ↔ Reading s r) ∧
    ∀ t, parse s = .ok t → ∀ its, Reads its s.toList → ∀ args : List String,
      (t.render args).toList = its.flatMap (Item.fill args) := by
  refine ⟨fun r => ⟨fun h => h ▸ reading_parse s, parse_of_reading⟩, ?_⟩
  intro t ht its hreads args
  have hpieces : t.pieces = group its := by
    rw [parse_of_reads hreads] at ht
    split at ht
    · cases ht
    · cases ht
      rfl
  rw [Template.render, Pieces.render_toList, hpieces, items_group]

end Template

end FormulaShader
