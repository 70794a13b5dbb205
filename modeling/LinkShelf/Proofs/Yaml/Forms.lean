import LinkShelf.Proofs.Yaml.Block
import LinkShelf.Proofs.Yaml.Escape
import LinkShelf.Proofs.Yaml.Plain

/-! The forms of a text: what each asks of it, and that all of them are written in printable
characters. -/
namespace LinkShelf
namespace Yaml

variable {cs : List Char}

theorem form_cases (s : String) :
    form s = .plain ∧ s.toList ≠ [] ∧ plainAllowed s.toList = true ∨
      form s = .single ∧ singleAllowed s.toList = true ∨ form s = .double ∨
        form s = .literal ∧ s.toList ≠ [] ∧ literalAllowed s.toList = true := by
  have hempty : isAmbiguous "" = true := by decide
  simp only [form]
  split
  · rename_i hfeed
    split
    · rename_i hliteral
      refine .inr (.inr (.inr ⟨rfl, fun hnil => ?_, hliteral⟩))
      rw [hnil] at hfeed
      cases hfeed
    · exact .inr (.inr (.inl rfl))
  split
  · split
    · rename_i hsingle
      exact .inr (.inl ⟨rfl, hsingle⟩)
    · exact .inr (.inr (.inl rfl))
  · rename_i hplain
    simp only [Bool.or_eq_true, not_or, Bool.not_eq_true, Bool.not_eq_false'] at hplain
    refine .inl ⟨rfl, fun hnil => ?_, hplain.2⟩
    rw [String.toList_eq_nil_iff.mp hnil] at hplain
    exact absurd (hempty.symm.trans hplain.1) (by decide)

theorem isPrintable_of_literalAllowed (h : literalAllowed cs = true) :
    ∀ c ∈ cs, isPrintable c = true := by
  simp only [literalAllowed, Bool.and_eq_true, Bool.not_eq_true'] at h
  exact isPrintable_of_needsDouble h.1

theorem isPrintable_of_singleAllowed (h : singleAllowed cs = true) :
    ∀ c ∈ cs, isPrintable c = true := by
  simp only [singleAllowed, Bool.and_eq_true, Bool.not_eq_true'] at h
  exact isPrintable_of_needsDouble h.1

theorem isPrintable_upperHex (width n : Nat) : ∀ c ∈ upperHex width n, isPrintable c = true := by
  have hdigit : ∀ n < 16, isPrintable n.digitChar.toUpper = true := by decide
  have hdigits : ∀ n, ∀ c ∈ (Nat.toDigits 16 n).map Char.toUpper, isPrintable c = true := by
    intro n
    induction n using Nat.strongRecOn with
    | ind n ih =>
      rcases Nat.lt_or_ge n 16 with hlt | hge
      · rw [Nat.toDigits_of_lt_base hlt]
        simpa using hdigit n hlt
      · rw [Nat.toDigits_of_base_le (by decide) hge, List.map_append, List.map_singleton]
        intro c hc
        rcases List.mem_append.mp hc with hc | hc
        · exact ih (n / 16) (by omega) c hc
        · rw [List.mem_singleton.mp hc]
          exact hdigit _ (Nat.mod_lt n (by decide))
  intro c hc
  rcases List.mem_append.mp hc with hc | hc
  · rw [(List.mem_replicate.mp hc).2]
    decide
  · exact hdigits n c hc

theorem isPrintable_doubleChar (x : Char) : ∀ c ∈ doubleChar x, isPrintable c = true := by
  have hletters : ∀ p ∈ letters, (doubleChar p.1).all isPrintable = true := by decide
  by_cases hletter : ∃ p ∈ letters, x = p.1
  · obtain ⟨p, hp, rfl⟩ := hletter
    exact List.all_eq_true.mp (hletters p hp)
  rw [doubleChar_of_none fun p hp hx => hletter ⟨p, hp, hx⟩]
  have hescape : ∀ (letter : Char) (width : Nat), isPrintable letter = true →
      ∀ c ∈ '\\' :: letter :: upperHex width x.toNat, isPrintable c = true := by
    intro letter width hletter
    exact List.forall_mem_cons.mpr ⟨by decide,
      List.forall_mem_cons.mpr ⟨hletter, isPrintable_upperHex width x.toNat⟩⟩
  split
  · rename_i hx
    simpa using hx
  split
  · exact hescape 'x' 2 (by decide)
  split
  · exact hescape 'u' 4 (by decide)
  · exact hescape 'U' 8 (by decide)

theorem isPrintable_margin (broken : Bool) :
    ∀ c ∈ if broken then margin else [], isPrintable c = true := by
  cases broken <;> exact List.all_eq_true.mp rfl

section Lines

variable (hcs : ∀ c ∈ cs, isPrintable c = true)

include hcs

theorem isPrintable_singleFrom (broken : Bool) :
    ∀ c ∈ singleFrom broken cs, isPrintable c = true := by
  induction cs generalizing broken with
  | nil => exact isPrintable_margin broken
  | cons d ds ih =>
    obtain ⟨hd, hds⟩ := List.forall_mem_cons.mp hcs
    rw [singleFrom]
    split
    · refine List.forall_mem_append.mpr ⟨?_, ih hds true⟩
      split
      · exact List.all_eq_true.mp rfl
      · exact List.forall_mem_singleton.mpr hd
    · refine List.forall_mem_append.mpr
        ⟨List.forall_mem_append.mpr ⟨isPrintable_margin broken, ?_⟩, ih hds false⟩
      split
      · exact List.all_eq_true.mp rfl
      · exact List.forall_mem_singleton.mpr hd

theorem isPrintable_linesFrom (broken : Bool) :
    ∀ c ∈ linesFrom broken cs, isPrintable c = true := by
  induction cs generalizing broken with
  | nil => exact List.forall_mem_nil _
  | cons d ds ih =>
    obtain ⟨hd, hds⟩ := List.forall_mem_cons.mp hcs
    rw [linesFrom]
    split
    · exact List.forall_mem_cons.mpr ⟨hd, ih hds true⟩
    · exact List.forall_mem_append.mpr
        ⟨isPrintable_margin broken, List.forall_mem_cons.mpr ⟨hd, ih hds false⟩⟩

end Lines

theorem isPrintable_header (cs : List Char) : ∀ c ∈ header cs, isPrintable c = true := by
  have hmark : ∀ c ∈ chompMark cs, isPrintable c = true := by
    rcases chompMark_cases cs with ⟨hmark, -⟩ | ⟨hmark, -⟩ | ⟨hmark, -⟩ <;> rw [hmark] <;>
      exact List.all_eq_true.mp rfl
  refine List.forall_mem_cons.mpr ⟨by decide, List.forall_mem_append.mpr ⟨?_, hmark⟩⟩
  split <;> exact List.all_eq_true.mp rfl

theorem isPrintable_writeText (text : String) : ∀ c ∈ writeText text, isPrintable c = true := by
  unfold writeText
  rcases form_cases text with ⟨hform, -, hplain⟩ | ⟨hform, hsingle⟩ | hform | ⟨hform, -, hliteral⟩
  · rw [hform]
    exact List.forall_mem_append.mpr ⟨isPrintable_of_plainAllowed hplain, List.all_eq_true.mp rfl⟩
  · rw [hform]
    exact List.forall_mem_append.mpr ⟨List.forall_mem_cons.mpr ⟨by decide,
      isPrintable_singleFrom (isPrintable_of_singleAllowed hsingle) false⟩,
        List.all_eq_true.mp rfl⟩
  · rw [hform]
    refine List.forall_mem_append.mpr ⟨List.forall_mem_cons.mpr ⟨by decide, fun c hc => ?_⟩,
      List.all_eq_true.mp rfl⟩
    obtain ⟨x, -, hx⟩ := List.mem_flatMap.mp hc
    exact isPrintable_doubleChar x c hx
  · rw [hform]
    refine List.forall_mem_append.mpr ⟨List.forall_mem_append.mpr ⟨isPrintable_header _,
      List.forall_mem_cons.mpr ⟨by decide,
        isPrintable_linesFrom (isPrintable_of_literalAllowed hliteral) true⟩⟩, ?_⟩
    split <;> exact List.all_eq_true.mp rfl

end Yaml
end LinkShelf
