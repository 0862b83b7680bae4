import FormulaShader.Proofs.Template.Reading

/-!
# Writing pieces as template text

The way back from pieces to template text: a character of text is written as itself, except
that a brace is doubled, and a slot is written as its number in decimal between braces. Each
item so written reads back as that item, whatever stands before or after it: a doubled brace
next to a slot, as in `a{{{0}` or `{0}}}`, still reads as one brace beside the slot. So the text
of canonical pieces whose slot numbers are at most 255 and run from zero without a gap reads
back as those very pieces. The pieces of every template read from text are of that kind, and
writing them out and reading again gives them back.

Results:
* `Pieces.escape`: the template text of pieces.
* `reads_escape`: the text of pieces reads as their items.
* `parse_escape`: the text of such pieces reads back as them.
* `parse_escape_round_trip`: writing pieces and reading them back gives them back, for every
  pieces of that kind and for the pieces of every template read from text.
-/

namespace FormulaShader

namespace Piece

/-- A character of text as template text: a brace doubled, any other character as it is. -/
def escapeChar (c : Char) : List Char := if c = '{' ∨ c = '}' then [c, c] else [c]

/-- A piece as template text. -/
def escape : Piece → List Char
  | .text s => s.toList.flatMap escapeChar
  | .slot i => '{' :: (toString i).toList ++ ['}']

end Piece

namespace Pieces

/-- The template text of pieces. -/
def escape (ps : Pieces) : String := String.ofList (ps.flatMap Piece.escape)

end Pieces

theorem isWhiteSpace_of_isDigit {c : Char} (h : c.isDigit) : isWhiteSpace c = false := by
  simp only [Char.isDigit, Bool.and_eq_true, decide_eq_true_eq, UInt32.le_iff_toNat_le,
    ge_iff_le] at h
  change 48 ≤ c.toNat ∧ c.toNat ≤ 57 at h
  simp only [isWhiteSpace, Bool.or_eq_false_iff, Bool.and_eq_false_iff, decide_eq_false_iff_not,
    beq_eq_false_iff_ne]
  omega

theorem trimWhiteSpace_of_forall {cs : List Char} (h : ∀ c ∈ cs, isWhiteSpace c = false) :
    trimWhiteSpace cs = cs := by
  have hdrop : ∀ l : List Char, (∀ c ∈ l, isWhiteSpace c = false) →
      l.dropWhile isWhiteSpace = l := by
    intro l hl
    cases l with
    | nil => rfl
    | cons c l => simp [hl c List.mem_cons_self]
  unfold trimWhiteSpace
  rw [hdrop cs h, hdrop cs.reverse (fun c hc => h c (List.mem_reverse.1 hc)), List.reverse_reverse]

namespace Template

theorem reads_escapeChars {its : List Item} {w : List Char} (h : Reads its w) :
    ∀ cs : List Char, Reads (cs.map .char ++ its) (cs.flatMap Piece.escapeChar ++ w)
  | [] => h
  | c :: cs => by
    have hrest := reads_escapeChars h cs
    by_cases h1 : c = '{'
    · subst h1
      simpa [Piece.escapeChar] using Reads.openBrace hrest
    · by_cases h2 : c = '}'
      · subst h2
        simpa [Piece.escapeChar] using Reads.closeBrace hrest
      · simpa [Piece.escapeChar, h1, h2] using Reads.char h1 h2 hrest

theorem toList_toString (i : Nat) : (toString i).toList = Nat.toDigits 10 i := by
  rw [Nat.toString_eq_ofList_toDigits, String.toList_ofList]

theorem isDigit_of_mem_toString {i : Nat} {c : Char} (h : c ∈ (toString i).toList) :
    c.isDigit := by
  rw [toList_toString] at h
  exact Nat.isDigit_of_mem_toDigits (by decide) (by decide) h

theorem slotNumber_toString {i : Nat} (hi : i ≤ maxSlot) : SlotNumber (toString i).toList i := by
  have hne : (toString i).toList ≠ [] := by
    rw [toList_toString]
    exact Nat.toDigits_ne_nil
  have hval : Nat.ofDigitChars 10 (toString i).toList 0 = i := by
    rw [toList_toString]
    exact Nat.ofDigitChars_toDigits (by decide) (by decide)
  exact ⟨(toString i).toList,
    .inl (trimWhiteSpace_of_forall fun c hc => isWhiteSpace_of_isDigit (isDigit_of_mem_toString hc)),
    hne, fun c hc => isDigit_of_mem_toString hc, hval, hi⟩

/-- The text of pieces whose slot numbers are at most 255 reads as their items. -/
theorem reads_escape : ∀ (ps : Pieces), (∀ i, Piece.slot i ∈ ps → i ≤ maxSlot) →
    Reads ps.items (ps.flatMap Piece.escape)
  | [], _ => .nil
  | .text s :: ps, h => by
    have hrest := reads_escape ps fun i hi => h i (List.mem_cons_of_mem _ hi)
    simpa [Pieces.items, Piece.escape] using reads_escapeChars hrest s.toList
  | .slot i :: ps, h => by
    have hrest := reads_escape ps fun i hi => h i (List.mem_cons_of_mem _ hi)
    -- the digits neither open a brace nor close one
    have hhead : (toString i).toList.head? ≠ some '{' := fun hh =>
      absurd (isDigit_of_mem_toString (List.mem_of_mem_head? hh)) (by decide)
    have hclose : '}' ∉ (toString i).toList := fun hm =>
      absurd (isDigit_of_mem_toString hm) (by decide)
    simpa [Pieces.items, Piece.escape] using
      Reads.slot hhead hclose (slotNumber_toString (h i List.mem_cons_self)) hrest

theorem Reads.slot_le {its : List Item} {w : List Char} (h : Reads its w) {i : Nat}
    (hi : Item.slot i ∈ its) : i ≤ maxSlot := by
  induction h with
  | nil => simp at hi
  | char _ _ _ ih => exact ih (by simpa using hi)
  | openBrace _ ih => exact ih (by simpa using hi)
  | closeBrace _ ih => exact ih (by simpa using hi)
  | @slot body j its w _ _ hnum _ ih =>
    rcases List.mem_cons.1 hi with heq | hmem
    · obtain ⟨-, -, -, -, -, hle⟩ := hnum
      cases heq
      exact hle
    · exact ih hmem

/-- Canonical pieces whose slot numbers are at most 255 and are exactly those below `k`, written
as template text, read back as themselves with arity `k`. -/
theorem parse_escape {ps : Pieces} {k : Nat} (hc : ps.Canonical)
    (hmax : ∀ i, Piece.slot i ∈ ps → i ≤ maxSlot) (hslots : ∀ i, Piece.slot i ∈ ps ↔ i < k) :
    parse ps.escape = .ok ⟨ps.escape, ps, k⟩ := by
  have hreads : Reads ps.items ps.escape.toList := by
    rw [Pieces.escape, String.toList_ofList]
    exact reads_escape ps hmax
  have hbound : slotBound ps.items = k := by
    rw [← Pieces.slotCount_eq_slotBound]
    exact Pieces.slotCount_eq_of_slots hslots
  have hmiss : firstMissing ps k = none := firstMissing_eq_none_iff.2 fun i hi => (hslots i).2 hi
  rw [parse_of_reads hreads, group_items hc, hbound, hmiss]

theorem parse_pieces {s : String} {t : Template} (h : parse s = .ok t) :
    t.pieces.Canonical ∧ ∀ i, Piece.slot i ∈ t.pieces → i ≤ maxSlot := by
  have hr := reading_parse s
  rw [h] at hr
  cases hr with
  | ok hreads _ _ _ hc hitems =>
    refine ⟨hc, fun i hi => hreads.slot_le ?_⟩
    rw [← hitems]
    exact Pieces.slot_mem_iff_items.1 hi

/-- Writing pieces as template text and reading it back gives the pieces back: for canonical
pieces whose slot numbers are at most 255 and run from zero up to `k` without a gap, the text
reads as a template with these pieces and arity `k`; and the pieces of every template read from
text, written out again, read back as the same pieces with the same arity. A doubled brace
written next to a slot, as in `a{{{0}` or `{0}}}`, is read as a brace beside that slot. -/
theorem parse_escape_round_trip :
    (∀ (ps : Pieces) (k : Nat), ps.Canonical → (∀ i, Piece.slot i ∈ ps → i ≤ maxSlot) →
        (∀ i, Piece.slot i ∈ ps ↔ i < k) → parse ps.escape = .ok ⟨ps.escape, ps, k⟩) ∧
    ∀ (s : String) (t : Template), parse s = .ok t →
      parse t.pieces.escape = .ok ⟨t.pieces.escape, t.pieces, t.arity⟩ := by
  refine ⟨fun ps k hc hmax hslots => parse_escape hc hmax hslots, ?_⟩
  intro s t ht
  obtain ⟨hc, hmax⟩ := parse_pieces ht
  exact parse_escape hc hmax (parse_slot_iff ht)

/-- A brace at the end of a text before a slot, and one at the start of a text after it, are
written doubled beside the slot's own braces, and read back as they were. -/
theorem braces_beside_slot_round_trip :
    Pieces.escape [.text "a\x7b", .slot 0, .text "\x7d"] = "a\x7b\x7b\x7b0\x7d\x7d\x7d" ∧
      parse (Pieces.escape [.text "a\x7b", .slot 0, .text "\x7d"]) =
        .ok ⟨Pieces.escape [.text "a\x7b", .slot 0, .text "\x7d"],
          [.text "a\x7b", .slot 0, .text "\x7d"], 1⟩ :=
  ⟨by decide, parse_escape_round_trip.1 _ 1 (.textSlot 0 (by decide) (.text (by decide)))
    (fun i hi => by simp at hi; simp [hi, maxSlot]) (fun i => by simp)⟩

end Template

end FormulaShader
