import LinkShelf.Text.Case

/-! Lowercase and the cut into words. The final sigma looks at the characters around it, but never
past one that is neither cased nor case-ignorable. So lowercase can be taken on both sides of such a
character on its own. White space is such a character: the words of a lowered phrase are those of its
parts, and trimming changes none of them. -/
namespace LinkShelf
namespace Text

/-- Whether the final sigma does not look past the character. -/
def isBoundary (c : Char) : Bool := !isIgnorable c && !isCased c

theorem isBoundary_of_isWhite {c : Char} (h : isWhite c = true) : isBoundary c = true :=
  of_isWhite (P := fun n => (!inRanges n ignorableRanges && !inRanges n casedRanges) = true) h
    (by decide +kernel)

theorem lowerChar_of_isWhite {c : Char} (h : isWhite c = true) : lowerChar c = [c] := by
  have hcode : lowerCode c.toNat lowerRanges = c.toNat :=
    of_isWhite (P := fun n => lowerCode n lowerRanges = n) h (by decide +kernel)
  have hdot : c ≠ 'İ' := by
    rintro rfl
    exact absurd h (by decide)
  rw [lowerChar, if_neg hdot, hcode, Char.ofNat_toNat]

theorem isCased_of_isBoundary {c : Char} (h : isBoundary c = true) : isCased c = false := by
  simp only [isBoundary, Bool.and_eq_true, Bool.not_eq_true'] at h
  exact h.2

theorem isIgnorable_of_isBoundary {c : Char} (h : isBoundary c = true) :
    isIgnorable c = false := by
  simp only [isBoundary, Bool.and_eq_true, Bool.not_eq_true'] at h
  exact h.1

@[simp] theorem casedNext_nil : casedNext [] = false := rfl

theorem casedNext_cons (c : Char) (cs : List Char) :
    casedNext (c :: cs) = if isIgnorable c then casedNext cs else isCased c := by
  by_cases h : isIgnorable c <;> simp [casedNext, h]

theorem casedNext_append {c : Char} (h : isBoundary c = true) (as bs : List Char) :
    casedNext (as ++ c :: bs) = casedNext as := by
  induction as with
  | nil => simp [casedNext_cons, isIgnorable_of_isBoundary h, isCased_of_isBoundary h]
  | cons a as ih => simp only [List.cons_append, casedNext_cons, ih]

theorem ne_sigma_of_isBoundary {c : Char} (h : isBoundary c = true) : c ≠ 'Σ' := by
  rintro rfl
  exact absurd (isCased_of_isBoundary h) (by decide)

/-- What is behind a boundary does not change how the text in front of it is lowered. -/
theorem lowerFrom_append {c : Char} (h : isBoundary c = true) (before as bs : List Char) :
    lowerFrom before (as ++ c :: bs) =
      lowerFrom before as ++ lowerFrom (as.reverse ++ before) (c :: bs) := by
  induction as generalizing before with
  | nil => simp [lowerFrom]
  | cons a as ih =>
    have hnext : casedNext (as ++ c :: bs) = casedNext as := casedNext_append h as bs
    simp only [List.cons_append, lowerFrom, hnext, ih, List.reverse_cons, List.append_assoc,
      List.nil_append]

/-- What is in front of a boundary does not change how the text behind it is lowered. -/
theorem lowerFrom_behind {c : Char} (h : isBoundary c = true) (near before cs : List Char) :
    lowerFrom (near ++ c :: before) cs = lowerFrom near cs := by
  induction cs generalizing near with
  | nil => rfl
  | cons x cs ih =>
    have hx : lowerFrom (x :: (near ++ c :: before)) cs = lowerFrom (x :: near) cs := by
      simpa only [List.cons_append] using ih (x :: near)
    simp only [lowerFrom, casedNext_append h, hx]

theorem lowerChars_append {c : Char} (h : isBoundary c = true) (as bs : List Char) :
    lowerChars (as ++ c :: bs) = lowerChars as ++ lowerChar c ++ lowerChars bs := by
  have hbehind : lowerFrom (c :: (as.reverse ++ [])) bs = lowerFrom [] bs :=
    lowerFrom_behind h [] _ bs
  simp only [lowerChars]
  rw [lowerFrom_append h, lowerFrom, if_neg (ne_sigma_of_isBoundary h), hbehind,
    List.append_assoc]

@[simp] theorem lowerChars_nil : lowerChars [] = [] := rfl

@[simp] theorem words_nil : words [] = [] := rfl

/-- White space stays what it is, and the words on both sides of it are lowered on their own. -/
theorem words_lowerChars_append {c : Char} (h : isWhite c = true) (as bs : List Char) :
    words (lowerChars (as ++ c :: bs)) = words (lowerChars as) ++ words (lowerChars bs) := by
  rw [lowerChars_append (isBoundary_of_isWhite h), lowerChar_of_isWhite h, List.append_assoc,
    List.singleton_append, words_append _ _ h]

theorem words_lowerChars_intercalate (parts : List (List Char)) :
    words (lowerChars (List.intercalate [' '] parts)) =
      parts.flatMap fun p => words (lowerChars p) := by
  induction parts with
  | nil => simp
  | cons p parts ih =>
    cases parts with
    | nil => simp
    | cons q parts =>
      rw [List.intercalate_cons_cons, List.append_assoc, List.singleton_append,
        words_lowerChars_append (by decide), ih]
      simp only [List.flatMap_cons]

theorem words_lowerChars_dropWhile (cs : List Char) :
    words (lowerChars (cs.dropWhile isWhite)) = words (lowerChars cs) := by
  induction cs with
  | nil => rfl
  | cons c cs ih =>
    by_cases hc : isWhite c = true
    · rw [List.dropWhile_cons_of_pos hc, ih]
      exact (words_lowerChars_append hc [] cs).symm
    · rw [List.dropWhile_cons_of_neg hc]

theorem words_lowerChars_dropWhile_reverse (cs : List Char) :
    words (lowerChars (cs.dropWhile isWhite).reverse) = words (lowerChars cs.reverse) := by
  induction cs with
  | nil => rfl
  | cons c cs ih =>
    by_cases hc : isWhite c = true
    · rw [List.dropWhile_cons_of_pos hc, ih, List.reverse_cons, words_lowerChars_append hc]
      exact (List.append_nil _).symm
    · rw [List.dropWhile_cons_of_neg hc]

/-- Trimming takes no word away, and changes none: no final sigma looks at what is trimmed. -/
theorem words_lowerChars_strip (cs : List Char) :
    words (lowerChars (strip isWhite cs)) = words (lowerChars cs) := by
  rw [strip, words_lowerChars_dropWhile_reverse, List.reverse_reverse, words_lowerChars_dropWhile]

end Text
end LinkShelf
