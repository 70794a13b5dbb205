import LinkShelf.Proofs.Text.Items
import LinkShelf.Proofs.Text.Lowered

/-! White space and commas, at which words and items are cut. They stay what they are in lowercase, and
no other character becomes one. So lowercase does not change where a text is cut, nor what can be an
item. -/
namespace LinkShelf
namespace Text

def isGap (c : Char) : Bool := c == ',' || isWhite c

theorem isGap_of_isWhite {c : Char} (h : isWhite c = true) : isGap c = true := by
  simp [isGap, h]

theorem isGap_comma : isGap ',' = true := rfl

def gapRanges : List (Nat × Nat) := (0x2C, 0x2C) :: whiteRanges

theorem exists_of_isGap {c : Char} (h : isGap c = true) :
    ∃ g ∈ gapRanges, g.1 ≤ c.toNat ∧ c.toNat ≤ g.2 := by
  rcases Bool.or_eq_true_iff.mp h with hcomma | hwhite
  · rw [beq_iff_eq.mp hcomma]
    exact ⟨(0x2C, 0x2C), List.mem_cons_self, Nat.le_refl _, Nat.le_refl _⟩
  · obtain ⟨g, hg, hbounds⟩ := exists_of_inRanges hwhite
    exact ⟨g, List.mem_cons_of_mem _ hg, hbounds⟩

/-- No range of letters is mapped to where a gap is. -/
theorem image_apart : ∀ r ∈ lowerRanges, ∀ g ∈ gapRanges,
    r.lastImage < g.1 ∨ g.2 < r.image := by decide +kernel

theorem not_gap_of_image {r : CaseRange} {n : Nat} (hr : r ∈ lowerRanges) (hn : n ∈ r.images) :
    isGap (Char.ofNat n) = false := by
  rw [Bool.eq_false_iff]
  intro hgap
  obtain ⟨g, hg, hlo, hhi⟩ := exists_of_isGap hgap
  rw [toNat_image hr hn] at hlo hhi
  have hbounds := CaseRange.bounds_of_mem_images hn
  rcases image_apart r hr g hg with hbelow | habove <;> omega

theorem eq_of_mem_lowerChar {c x : Char} (hx : x ∈ lowerChar c) (h : isGap x = true) : c = x := by
  unfold lowerChar at hx
  split at hx
  · have hnone : ['i', '\u0307'].any isGap = false := by decide
    exact absurd h (List.any_eq_false.mp hnone x hx)
  · obtain rfl := List.mem_singleton.mp hx
    rcases lowerCode_cases c.toNat lowerRanges with hsame | ⟨r, hr, hn⟩
    · rw [hsame, Char.ofNat_toNat]
    · rw [not_gap_of_image hr hn] at h
      cases h

/-- A gap at a place of the lowercase is at this place of the text. -/
theorem eq_of_mem_lowerAt {before after : List Char} {c x : Char} (hx : x ∈ lowerAt before c after)
    (h : isGap x = true) : c = x := by
  by_cases hc : c = 'Σ'
  · subst hc
    have hsigma : isGap 'ς' = false ∧ isGap 'σ' = false := by decide
    rw [lowerAt_sigma, List.mem_singleton] at hx
    split at hx
    · rw [hx, hsigma.1] at h
      cases h
    · rw [hx, hsigma.2] at h
      cases h
  · rw [lowerAt_of_ne hc] at hx
    exact eq_of_mem_lowerChar hx h

theorem lowerAt_of_isGap {c : Char} (h : isGap c = true) (before after : List Char) :
    lowerAt before c after = [c] := by
  have hne : c ≠ 'Σ' := by
    rintro rfl
    exact absurd h (by decide)
  rw [lowerAt_of_ne hne]
  rcases Bool.or_eq_true_iff.mp h with hcomma | hwhite
  · rw [beq_iff_eq.mp hcomma]
    decide
  · exact lowerChar_of_isWhite hwhite

theorem lowerAt_ne_nil (before after : List Char) (c : Char) : lowerAt before c after ≠ [] := by
  unfold lowerAt lowerChar
  split
  · simp
  · split <;> simp

theorem mem_lowerFrom_iff {before cs : List Char} {x : Char} (h : isGap x = true) :
    x ∈ lowerFrom before cs ↔ x ∈ cs := by
  induction cs generalizing before with
  | nil => simp [lowerFrom]
  | cons c cs ih =>
    rw [lowerFrom_cons, List.mem_append, ih, List.mem_cons]
    refine or_congr_left ⟨fun hx => (eq_of_mem_lowerAt hx h).symm, ?_⟩
    rintro rfl
    rw [lowerAt_of_isGap h, List.mem_singleton]

/-- What is lowered is cut into words where the text is. -/
theorem words_lowerChars_of_none {cs : List Char} (h : ∀ c ∈ cs, isWhite c = false) :
    words (lowerChars cs) = if cs = [] then [] else [lowerChars cs] := by
  have hnone : ∀ c ∈ lowerChars cs, isWhite c = false := by
    intro c hc
    rw [Bool.eq_false_iff]
    intro hwhite
    rw [h c ((mem_lowerFrom_iff (isGap_of_isWhite hwhite)).mp hc)] at hwhite
    cases hwhite
  cases cs with
  | nil => rfl
  | cons c cs =>
    have hne : lowerChars (c :: cs) ≠ [] := by
      rw [lowerChars, lowerFrom_cons]
      simp [lowerAt_ne_nil]
    simp [words, pieces_of_none hnone, hne]

theorem isWhite_of_mem_lowerAt {before after : List Char} {c x : Char}
    (hx : x ∈ lowerAt before c after) : isWhite x = isWhite c := by
  cases hc : isWhite c with
  | true =>
    rw [lowerAt_of_isGap (isGap_of_isWhite hc), List.mem_singleton] at hx
    rw [hx, hc]
  | false =>
    rw [Bool.eq_false_iff]
    intro hwhite
    rw [eq_of_mem_lowerAt hx (isGap_of_isWhite hwhite), hwhite] at hc
    cases hc

theorem head?_lowerChars_iff (cs : List Char) :
    (∀ x ∈ (lowerChars cs).head?, isWhite x = false) ↔ ∀ x ∈ cs.head?, isWhite x = false := by
  cases cs with
  | nil => rfl
  | cons c cs =>
    obtain ⟨x, xs, hplace⟩ := List.exists_cons_of_ne_nil (lowerAt_ne_nil [] cs c)
    have hx : isWhite x = isWhite c := isWhite_of_mem_lowerAt (by rw [hplace]; exact List.mem_cons_self)
    simp [lowerChars, lowerFrom_cons, hplace, hx]

theorem getLast?_lowerChars_iff (cs : List Char) :
    (∀ x ∈ (lowerChars cs).getLast?, isWhite x = false) ↔ ∀ x ∈ cs.getLast?, isWhite x = false := by
  rcases List.eq_nil_or_concat cs with rfl | ⟨init, c, rfl⟩
  · rfl
  obtain ⟨xs, x, hplace⟩ := (List.eq_nil_or_concat (lowerAt (init.reverse ++ []) c [])).resolve_left
    (lowerAt_ne_nil _ [] c)
  have hx : isWhite x = isWhite c := isWhite_of_mem_lowerAt (by rw [hplace]; simp)
  have hwhole : lowerChars (init ++ [c]) = lowerBetween [] [c] init ++ (xs ++ [x]) := by
    rw [lowerChars, lowerFrom_append_between, lowerFrom_cons, hplace, lowerFrom, List.append_nil,
      List.concat_eq_append]
  simp [List.concat_eq_append, hwhole, hx]

theorem isItem_lower (s : String) : IsItem (lower s) ↔ IsItem s := by
  have hempty : lower s ≠ "" ↔ s ≠ "" := by
    have hnil : ∀ t : String, t ≠ "" ↔ t.toList ≠ [] := fun t => by simp
    rw [hnil, hnil, toList_lower]
    cases s.toList with
    | nil => simp
    | cons c cs => simp [lowerChars, lowerFrom_cons, lowerAt_ne_nil]
  have hcomma : ',' ∉ (lower s).toList ↔ ',' ∉ s.toList := by
    rw [toList_lower]
    exact not_congr (mem_lowerFrom_iff isGap_comma)
  have hhead := head?_lowerChars_iff s.toList
  have hlast := getLast?_lowerChars_iff s.toList
  rw [← toList_lower] at hhead hlast
  constructor
  · intro h
    exact ⟨hempty.mp h.ne_empty, hcomma.mp h.comma_not_mem, hhead.mp h.head_not_white,
      hlast.mp h.last_not_white⟩
  · intro h
    exact ⟨hempty.mpr h.ne_empty, hcomma.mpr h.comma_not_mem, hhead.mpr h.head_not_white,
      hlast.mpr h.last_not_white⟩

end Text
end LinkShelf
