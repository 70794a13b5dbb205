import LinkShelf.Yaml.Cursor

/-! The blanks and breaks that can be written as they are, and how the reader moves over them. -/
namespace LinkShelf
namespace Yaml

def IsPlainBreak (c : Char) : Prop := c = '\n' ∨ c = '\u2028' ∨ c = '\u2029'

theorem space_or_plainBreak {c : Char} (hc : isPrintable c = true) (h : isSpacing c = true) :
    c = ' ' ∨ IsPlainBreak c := by
  simp only [isSpacing, isBlank, isBreak, Bool.or_eq_true, beq_iff_eq] at h
  rcases h with (rfl | rfl) | (((rfl | rfl) | rfl) | rfl) | rfl
  · exact .inl rfl
  · exact absurd hc (by decide)
  · exact .inr (.inl rfl)
  · exact absurd hc (by decide)
  · exact absurd hc (by decide)
  · exact .inr (.inr (.inl rfl))
  · exact .inr (.inr (.inr rfl))

theorem isSpacing_of_isBreak {c : Char} (h : isBreak c = true) : isSpacing c = true := by
  simp [isSpacing, h]

theorem isBlank_of_dark {c : Char} (h : isSpacing c = false) : isBlank c = false :=
  (Bool.or_eq_false_iff.mp h).1

theorem isBreak_of_dark {c : Char} (h : isSpacing c = false) : isBreak c = false :=
  (Bool.or_eq_false_iff.mp h).2

theorem plainBreak_of_isBreak {c : Char} (hc : isPrintable c = true) (h : isBreak c = true) :
    IsPlainBreak c := by
  rcases space_or_plainBreak hc (isSpacing_of_isBreak h) with rfl | hbreak
  · exact absurd h (by decide)
  · exact hbreak

theorem IsPlainBreak.isBreak {c : Char} (h : IsPlainBreak c) : isBreak c = true := by
  rcases h with rfl | rfl | rfl <;> decide

theorem space_or_dark {c : Char} (hc : isPrintable c = true) (h : isBreak c = false) :
    c = ' ' ∨ isSpacing c = false := by
  cases hspacing : isSpacing c with
  | false => exact .inr rfl
  | true =>
    refine (space_or_plainBreak hc hspacing).imp_right fun hplain => ?_
    exact absurd (hplain.isBreak.symm.trans h) (by decide)

theorem isAllowed_of_isPrintable {c : Char} (h : isPrintable c = true) : isAllowed c = true := by
  simp only [isPrintable, Bool.or_eq_true, Bool.and_eq_true, beq_iff_eq, bne_iff_ne,
    decide_eq_true_eq] at h
  simp only [isAllowed, Bool.or_eq_true, Bool.and_eq_true, beq_iff_eq, bne_iff_ne,
    decide_eq_true_eq]
  rcases h with (rfl | h) | ⟨⟨⟨h, -⟩, hfffe⟩, hffff⟩
  · exact .inl (.inl (.inl (.inl (.inr rfl))))
  · exact .inl (.inl (.inr h))
  · exact .inr ⟨⟨h, hfffe⟩, hffff⟩

theorem isAllowed_of_isAlphanum {c : Char} (h : c.isAlphanum = true) : isAllowed c = true := by
  have hrange : ' ' ≤ c ∧ c ≤ '~' := by
    have hcases : (decide (c.val ≥ 'A'.val ∧ c.val ≤ 'Z'.val) ||
        decide (c.val ≥ 'a'.val) && decide (c.val ≤ 'z'.val) ||
          decide (c.val ≥ '0'.val) && decide (c.val ≤ '9'.val)) = true := h
    simp only [Bool.or_eq_true, Bool.and_eq_true, decide_eq_true_eq, ge_iff_le,
      UInt32.le_iff_toNat_le] at hcases
    simp only [Char.le_def, UInt32.le_iff_toNat_le]
    simp only [Char.reduceVal, UInt32.reduceToNat] at hcases ⊢
    omega
  simp [isAllowed, hrange.1, hrange.2]

theorem dark_of_isAlphanum {c : Char} (h : c.isAlphanum = true) : isSpacing c = false := by
  cases hspacing : isSpacing c with
  | false => rfl
  | true =>
    simp only [isSpacing, isBlank, isBreak, Bool.or_eq_true, beq_iff_eq] at hspacing
    rcases hspacing with (rfl | rfl) | (((rfl | rfl) | rfl) | rfl) | rfl <;>
      exact absurd h (by decide)

/-- What is left begins with no blank and no break. -/
def BeginsDark (cs : List Char) : Prop := ∀ c ∈ cs.head?, isSpacing c = false

theorem endsWord_cons (c : Char) (cs : List Char) : endsWord (c :: cs) = isSpacing c := rfl

namespace Cursor

variable {c : Cursor} {r : List Char} {x : Char}

@[simp] theorem skip_rest (c : Cursor) (n : Nat) : (c.skip n).rest = c.rest.drop n := rfl

@[simp] theorem skip_column (c : Cursor) (n : Nat) : (c.skip n).column = c.column + n := rfl

@[simp] theorem skip_zero (c : Cursor) : c.skip 0 = c := rfl

@[simp] theorem skip_skip (c : Cursor) (m n : Nat) : (c.skip m).skip n = c.skip (m + n) := by
  simp [skip, Nat.add_assoc]

def nextLine (c : Cursor) : Cursor := ⟨c.rest.drop 1, c.index + 1, c.line + 1, 0⟩

@[simp] theorem nextLine_rest (c : Cursor) : c.nextLine.rest = c.rest.drop 1 := rfl

@[simp] theorem nextLine_column (c : Cursor) : c.nextLine.column = 0 := rfl

theorem readBreak_plainBreak (hc : c.rest = x :: r) (hx : IsPlainBreak x) :
    c.readBreak = ([x], c.nextLine) := by
  have hrest : c.rest.drop 1 = r := by rw [hc]; rfl
  rw [readBreak, hc]
  rcases hx with rfl | rfl | rfl <;> simp [isBreak, nextLine, hrest]

theorem atBreak_cons (hc : c.rest = x :: r) : c.atBreak = isBreak x := by
  rw [atBreak, hc]

theorem atBreak_of_beginsDark (h : BeginsDark c.rest) : c.atBreak = false := by
  unfold atBreak
  split
  · rename_i x r hc
    exact isBreak_of_dark (h x (by rw [hc]; rfl))
  · rfl

theorem atMark_of_column (h : c.column ≠ 0) (mark : Char) : c.atMark mark = false := by
  unfold atMark
  split
  · rename_i hcolumn _
    exact absurd hcolumn h
  · rfl

theorem atDocumentMark_of_column (h : c.column ≠ 0) : c.atDocumentMark = false := by
  rw [atDocumentMark, atMark_of_column h, atMark_of_column h]
  rfl

variable {indent : Int} {fuel : Nat} {g : Gap}

theorem readGap_space (hc : c.rest = ' ' :: r) :
    c.readGap indent (fuel + 1) g = (c.skip 1).readGap indent fuel (g.addBlank ' ') := by
  rw [readGap, hc]
  simp [isBlank]

theorem readGap_break (hc : c.rest = x :: r) (hx : IsPlainBreak x) :
    c.readGap indent (fuel + 1) g = c.nextLine.readGap indent fuel (g.addBreak [x]) := by
  have hblank : isBlank x = false := by rcases hx with rfl | rfl | rfl <;> decide
  rw [readGap, hc]
  simp [hblank, hx.isBreak, readBreak_plainBreak hc hx]

theorem readGap_dark (h : BeginsDark c.rest) : c.readGap indent (fuel + 1) g = some (g, c) := by
  rw [readGap]
  split
  · rfl
  · rename_i x r hc
    have hx : isSpacing x = false := h x (by rw [hc]; rfl)
    simp [isBlank_of_dark hx, isBreak_of_dark hx]

end Cursor
end Yaml
end LinkShelf
