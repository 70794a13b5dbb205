import LinkShelf.Proofs.Text.Sigma

/-! Lowercase of what is in lowercase already. A capital is mapped to a letter that is no capital itself,
so every character of a lowercase is left as it is when it is lowered again. -/
namespace LinkShelf
namespace Text

section Bits

/-- The numbers as the bits of one number, so that two tables of code points are compared in one step. -/
def bits (ns : List Nat) : Nat := ns.foldr (fun n m => 1 <<< n ||| m) 0

def allBits (nss : List (List Nat)) : Nat := nss.foldr (fun ns m => bits ns ||| m) 0

variable {n : Nat}

theorem testBit_bits {ns : List Nat} : (bits ns).testBit n = true ↔ n ∈ ns := by
  induction ns with
  | nil => simp [bits]
  | cons a ns ih =>
    have hcons : bits (a :: ns) = 1 <<< a ||| bits ns := rfl
    rw [hcons, Nat.testBit_or, Bool.or_eq_true, ih, Nat.one_shiftLeft, Nat.testBit_two_pow,
      decide_eq_true_eq, List.mem_cons, eq_comm]

theorem testBit_allBits {nss : List (List Nat)} :
    (allBits nss).testBit n = true ↔ ∃ ns ∈ nss, n ∈ ns := by
  induction nss with
  | nil => simp [allBits]
  | cons ns nss ih =>
    have hcons : allBits (ns :: nss) = bits ns ||| allBits nss := rfl
    rw [hcons, Nat.testBit_or, Bool.or_eq_true, ih, testBit_bits]
    simp

theorem not_mem_of_allBits {as bs : List (List Nat)} (h : allBits as &&& allBits bs = 0)
    (ha : ∃ ns ∈ as, n ∈ ns) : ¬ ∃ ns ∈ bs, n ∈ ns := by
  intro hb
  have hboth : (allBits as &&& allBits bs).testBit n = true := by
    rw [Nat.testBit_and, testBit_allBits.mpr ha, testBit_allBits.mpr hb]
    rfl
  rw [h, Nat.zero_testBit] at hboth
  cases hboth

end Bits

namespace CaseRange

def size (r : CaseRange) : Nat := (r.last - r.first) / r.step + 1

def capitals (r : CaseRange) : List Nat := List.range' r.first r.size r.step

def images (r : CaseRange) : List Nat := List.range' r.image r.size r.step

variable {r : CaseRange} {n : Nat}

theorem mem_steps (h : n ≤ r.last - r.first) (hstep : n % r.step = 0) (a : Nat) :
    a + n ∈ List.range' a r.size r.step := by
  refine List.mem_range'.mpr ⟨n / r.step, ?_, ?_⟩
  · exact Nat.lt_succ_of_le (Nat.div_le_div_right h)
  · rw [Nat.mul_div_cancel' (Nat.dvd_of_mod_eq_zero hstep)]

theorem mem_capitals (hfirst : r.first ≤ n) (hlast : n ≤ r.last) (hstep : (n - r.first) % r.step = 0) :
    n ∈ r.capitals := by
  have hmem := mem_steps (Nat.sub_le_sub_right hlast r.first) hstep r.first
  rwa [Nat.add_sub_cancel' hfirst] at hmem

def lastImage (r : CaseRange) : Nat := r.image + (r.last - r.first)

theorem bounds_of_mem_images (h : n ∈ r.images) : r.image ≤ n ∧ n ≤ r.lastImage := by
  obtain ⟨i, hi, rfl⟩ := List.mem_range'.mp h
  have hsteps : r.step * i ≤ r.last - r.first :=
    Nat.le_trans (Nat.mul_le_mul_left _ (Nat.le_of_lt_succ hi)) (Nat.mul_div_le _ _)
  exact ⟨Nat.le_add_right _ _, Nat.add_le_add_left hsteps _⟩

end CaseRange

/-- A code point is mapped with the range that it is in, or stays as it is. -/
theorem lowerCode_cases (n : Nat) (ranges : List CaseRange) :
    lowerCode n ranges = n ∨ ∃ r ∈ ranges, lowerCode n ranges ∈ r.images := by
  induction ranges with
  | nil => exact .inl rfl
  | cons r rest ih =>
    have hrest : lowerCode n rest = n ∨ ∃ r' ∈ r :: rest, lowerCode n rest ∈ r'.images :=
      ih.imp id fun ⟨r', hr', himage⟩ => ⟨r', List.mem_cons_of_mem r hr', himage⟩
    unfold lowerCode
    split
    · exact .inl rfl
    split
    · rename_i hlast
      split
      · rename_i hstep
        exact .inr ⟨r, List.mem_cons_self, r.mem_steps (Nat.sub_le_sub_right hlast r.first) hstep _⟩
      · exact hrest
    · exact hrest

theorem lowerCode_of_not_capital {n : Nat} {ranges : List CaseRange}
    (h : ∀ r ∈ ranges, n ∉ r.capitals) : lowerCode n ranges = n := by
  induction ranges with
  | nil => rfl
  | cons r rest ih =>
    have hr : n ∉ r.capitals := h r List.mem_cons_self
    have hrest := ih fun s hs => h s (List.mem_cons_of_mem r hs)
    unfold lowerCode
    split
    · rfl
    rename_i hfirst
    split
    · rename_i hlast
      rw [if_neg, hrest]
      exact fun hstep => hr (CaseRange.mem_capitals (Nat.not_lt.mp hfirst) hlast hstep)
    · exact hrest

theorem images_not_capitals :
    allBits (lowerRanges.map CaseRange.images) &&&
      allBits (['İ'.toNat] :: lowerRanges.map CaseRange.capitals) = 0 := by decide +kernel

theorem images_valid : ∀ r ∈ lowerRanges,
    r.lastImage < 0xD800 ∨ 0xDFFF < r.image ∧ r.lastImage < 0x110000 := by decide +kernel

section Image

variable {r : CaseRange} {n : Nat} (hr : r ∈ lowerRanges) (hn : n ∈ r.images)
include hr hn

theorem image_not_mem {ns : List Nat}
    (hns : ns ∈ ['İ'.toNat] :: lowerRanges.map CaseRange.capitals) : n ∉ ns := fun hmem =>
  not_mem_of_allBits images_not_capitals ⟨_, List.mem_map_of_mem hr, hn⟩ ⟨ns, hns, hmem⟩

theorem lowerCode_image : lowerCode n lowerRanges = n :=
  lowerCode_of_not_capital fun _ hs =>
    image_not_mem hr hn (List.mem_cons_of_mem _ (List.mem_map_of_mem hs))

theorem toNat_image : (Char.ofNat n).toNat = n := by
  obtain ⟨hlo, hhi⟩ := CaseRange.bounds_of_mem_images hn
  have hvalid : n.isValidChar := by
    rcases images_valid r hr with hbelow | ⟨habove, hbelow⟩
    · exact .inl (by omega)
    · exact .inr ⟨by omega, by omega⟩
  rw [Char.ofNat, dif_pos hvalid]
  rfl

theorem ne_dotted_of_image : Char.ofNat n ≠ 'İ' := by
  intro hdot
  have hcode : n = 'İ'.toNat := by rw [← hdot, toNat_image hr hn]
  exact image_not_mem hr hn List.mem_cons_self (List.mem_singleton.mpr hcode)

end Image

/-- A character that lowercase leaves as it is, wherever it stands. -/
def IsSmall (c : Char) : Prop := c ≠ 'Σ' ∧ lowerChar c = [c]

theorem isSmall_of_code {c : Char} (hdot : c ≠ 'İ') (hcode : lowerCode c.toNat lowerRanges = c.toNat) :
    IsSmall c := by
  refine ⟨?_, ?_⟩
  · rintro rfl
    exact absurd hcode (by decide)
  · rw [lowerChar, if_neg hdot, hcode, Char.ofNat_toNat]

theorem isSmall_i : IsSmall 'i' := isSmall_of_code (by decide) (by decide)

theorem isSmall_dotAbove : IsSmall '\u0307' := isSmall_of_code (by decide) (by decide)

theorem isSmall_sigma : IsSmall 'σ' := isSmall_of_code (by decide) (by decide)

theorem isSmall_finalSigma : IsSmall 'ς' := isSmall_of_code (by decide) (by decide)

theorem isSmall_of_mem_lowerChar {c x : Char} (hx : x ∈ lowerChar c) : IsSmall x := by
  unfold lowerChar at hx
  split at hx
  · simp only [List.mem_cons, List.not_mem_nil, or_false] at hx
    rcases hx with rfl | rfl
    · exact isSmall_i
    · exact isSmall_dotAbove
  · rename_i hdot
    obtain rfl := List.mem_singleton.mp hx
    rcases lowerCode_cases c.toNat lowerRanges with hsame | ⟨r, hr, hn⟩
    · rw [hsame, Char.ofNat_toNat]
      exact isSmall_of_code hdot hsame
    · refine isSmall_of_code (ne_dotted_of_image hr hn) ?_
      rw [toNat_image hr hn, lowerCode_image hr hn]

theorem isSmall_of_mem_lowerAt {before after : List Char} {c x : Char}
    (hx : x ∈ lowerAt before c after) : IsSmall x := by
  by_cases hc : c = 'Σ'
  · rw [hc, lowerAt_sigma, List.mem_singleton] at hx
    split at hx
    · exact hx ▸ isSmall_finalSigma
    · exact hx ▸ isSmall_sigma
  · rw [lowerAt_of_ne hc] at hx
    exact isSmall_of_mem_lowerChar hx

theorem isSmall_of_mem_lowerFrom {before cs : List Char} {x : Char} (hx : x ∈ lowerFrom before cs) :
    IsSmall x := by
  induction cs generalizing before with
  | nil => cases hx
  | cons c cs ih =>
    rw [lowerFrom_cons, List.mem_append] at hx
    exact hx.elim isSmall_of_mem_lowerAt ih

theorem lowerFrom_of_small {cs : List Char} (h : ∀ c ∈ cs, IsSmall c) (before : List Char) :
    lowerFrom before cs = cs := by
  induction cs generalizing before with
  | nil => rfl
  | cons c cs ih =>
    obtain ⟨hsigma, hc⟩ := h c List.mem_cons_self
    rw [lowerFrom_cons, lowerAt_of_ne hsigma, hc, ih fun x hx => h x (List.mem_cons_of_mem c hx)]
    rfl

/-- What is in lowercase is its own lowercase. -/
theorem lowerChars_lowerChars (cs : List Char) : lowerChars (lowerChars cs) = lowerChars cs :=
  lowerFrom_of_small (fun _ hx => isSmall_of_mem_lowerFrom hx) []

end Text
end LinkShelf
