import LinkShelf.Proofs.Yaml.Gap
import LinkShelf.Yaml.Scalar
import LinkShelf.Yaml.Writer
import Mathlib.Algebra.Group.Nat.Defs

/-! Escapes between double quotes: each character is written as itself or behind a backslash, and what
is behind a backslash is read as the character. -/
namespace LinkShelf
namespace Yaml

theorem hexValue?_upper {n : Nat} (h : n < 16) :
    Json.hexValue? n.digitChar.toUpper = some n := by
  have hall : ∀ n < 16, Json.hexValue? n.digitChar.toUpper = some n := by decide
  exact hall n h

theorem hexNumber_concat {cs : List Char} {n m : Nat} {c : Char} (hcs : hexNumber cs = some n)
    (hc : Json.hexValue? c = some m) : hexNumber (cs ++ [c]) = some (16 * n + m) := by
  rw [hexNumber, List.foldlM_append, ← hexNumber, hcs]
  simp [hc]

theorem hexNumber_toDigits (n : Nat) :
    hexNumber ((Nat.toDigits 16 n).map Char.toUpper) = some n := by
  induction n using Nat.strongRecOn with
  | ind n ih =>
    rcases Nat.lt_or_ge n 16 with hlt | hge
    · have hone : hexNumber [] = some 0 := rfl
      rw [Nat.toDigits_of_lt_base hlt]
      simpa using hexNumber_concat hone (hexValue?_upper hlt)
    · have hvalue : 16 * (n / 16) + n % 16 = n := Nat.div_add_mod n 16
      rw [Nat.toDigits_of_base_le (by decide) hge, List.map_append, List.map_singleton,
        hexNumber_concat (ih (n / 16) (by omega)) (hexValue?_upper (Nat.mod_lt n (by decide))),
        hvalue]

theorem hexNumber_zeros (k : Nat) (cs : List Char) :
    hexNumber (List.replicate k '0' ++ cs) = hexNumber cs := by
  have hzero : (Json.hexValue? '0').map (16 * 0 + ·) = some 0 := by decide
  induction k with
  | zero => rfl
  | succ k ih =>
    rw [List.replicate_succ, List.cons_append, hexNumber, List.foldlM_cons]
    simp only [hzero, Option.bind_eq_bind, Option.bind_some]
    exact ih

theorem hexNumber_upperHex (width n : Nat) : hexNumber (upperHex width n) = some n := by
  rw [upperHex, hexNumber_zeros, hexNumber_toDigits]

theorem length_upperHex {width n : Nat} (hwidth : 0 < width) (h : n < 16 ^ width) :
    (upperHex width n).length = width := by
  have hlength := (Nat.length_toDigits_le_iff (by decide) hwidth).mpr h
  rw [upperHex, List.length_append, List.length_replicate, List.length_map]
  omega

/-- The number of a character is read back behind the letter for its width. -/
theorem readEscape_upperHex {letter c : Char} {width : Nat} (hletter : codeWidth? letter = some width)
    (hwidth : 0 < width) (h : c.toNat < 16 ^ width) (rest : List Char) :
    readEscape (letter :: upperHex width c.toNat ++ rest) = some (c, width + 1) := by
  have hlength := length_upperHex hwidth h
  have htake : (upperHex width c.toNat ++ rest).take width = upperHex width c.toNat := by
    rw [List.take_append_of_le_length (by omega), List.take_of_length_le (by omega)]
  have hvalid : c.toNat.isValidChar := c.valid
  rw [List.cons_append, readEscape]
  simp only [hletter, htake, hlength, if_true, hexNumber_upperHex, Option.bind_eq_bind,
    Option.bind_some, if_pos hvalid, Char.ofNat_toNat]

theorem readEscape_letter {letter c : Char} (hwidth : codeWidth? letter = none)
    (hletter : escaped? letter = some c) (rest : List Char) :
    readEscape ([letter] ++ rest) = some (c, 1) := by
  rw [List.singleton_append, readEscape]
  simp only [hwidth, hletter, Option.map_some]

/-- What is written behind a backslash for a character. -/
structure IsEscape (e : List Char) (c : Char) : Prop where
  reads : ∀ rest, readEscape (e ++ rest) = some (c, e.length)
  dark : ∃ letter tail, e = letter :: tail ∧ isBreak letter = false

theorem isEscape_letter {letter c : Char} (hbreak : isBreak letter = false)
    (hwidth : codeWidth? letter = none) (hletter : escaped? letter = some c) :
    IsEscape [letter] c :=
  ⟨readEscape_letter hwidth hletter, letter, [], rfl, hbreak⟩

theorem isEscape_upperHex {letter c : Char} {width : Nat} (hbreak : isBreak letter = false)
    (hletter : codeWidth? letter = some width) (hwidth : 0 < width) (h : c.toNat < 16 ^ width) :
    IsEscape (letter :: upperHex width c.toNat) c where
  reads rest := by
    rw [readEscape_upperHex hletter hwidth h, List.length_cons, length_upperHex hwidth h]
  dark := ⟨letter, _, rfl, hbreak⟩

/-- The characters that have a letter of their own, with the letters. -/
def letters : List (Char × Char) :=
  [('\x00', '0'), ('\x07', 'a'), ('\x08', 'b'), ('\t', 't'), ('\n', 'n'), ('\x0b', 'v'),
    ('\x0c', 'f'), ('\r', 'r'), ('\x1b', 'e'), ('"', '"'), ('\\', '\\'), ('\u0085', 'N'),
    ('\u2028', 'L'), ('\u2029', 'P')]

theorem doubleChar_of_letter : ∀ p ∈ letters, doubleChar p.1 = ['\\', p.2] ∧
    isBreak p.2 = false ∧ codeWidth? p.2 = none ∧ escaped? p.2 = some p.1 := by decide

theorem doubleChar_of_none {c : Char} (h : ∀ p ∈ letters, c ≠ p.1) : doubleChar c =
    if isPrintable c then [c]
    else if c.toNat ≤ 0xff then '\\' :: 'x' :: upperHex 2 c.toNat
    else if c.toNat ≤ 0xffff then '\\' :: 'u' :: upperHex 4 c.toNat
    else '\\' :: 'U' :: upperHex 8 c.toNat := by
  simp only [letters, List.forall_mem_cons, ne_eq] at h
  simp only [doubleChar, beq_iff_eq, h, if_false]

/-- A character is written as itself or behind a backslash. What is written as itself is no break, no
quote and no backslash. -/
theorem doubleChar_cases (c : Char) :
    doubleChar c = [c] ∧ (c = ' ' ∨ isSpacing c = false) ∧ c ≠ '"' ∧ c ≠ '\\' ∧ isPrintable c = true ∨
      ∃ e, doubleChar c = '\\' :: e ∧ IsEscape e c := by
  by_cases hletter : ∃ p ∈ letters, c = p.1
  · obtain ⟨p, hp, rfl⟩ := hletter
    obtain ⟨hwritten, hbreak, hwidth, hread⟩ := doubleChar_of_letter p hp
    exact .inr ⟨_, hwritten, isEscape_letter hbreak hwidth hread⟩
  have hnone : ∀ p ∈ letters, c ≠ p.1 := fun p hp hc => hletter ⟨p, hp, hc⟩
  have hcode : c.toNat < 16 ^ 8 := Nat.lt_of_lt_of_le c.val.toNat_lt (by decide)
  rw [doubleChar_of_none hnone]
  split
  · rename_i hprintable
    have hquote : c ≠ '"' := hnone ('"', '"') (by decide)
    have hslash : c ≠ '\\' := hnone ('\\', '\\') (by decide)
    refine .inl ⟨rfl, space_or_dark hprintable ?_, hquote, hslash, hprintable⟩
    cases hbreak : isBreak c with
    | false => rfl
    | true =>
      rcases plainBreak_of_isBreak hprintable hbreak with rfl | rfl | rfl
      · exact absurd rfl (hnone ('\n', 'n') (by decide))
      · exact absurd rfl (hnone ('\u2028', 'L') (by decide))
      · exact absurd rfl (hnone ('\u2029', 'P') (by decide))
  split
  · rename_i hbyte
    exact .inr ⟨_, rfl, isEscape_upperHex (by decide) rfl (by decide) (by omega)⟩
  split
  · rename_i hunit
    exact .inr ⟨_, rfl, isEscape_upperHex (by decide) rfl (by decide) (by omega)⟩
  · exact .inr ⟨_, rfl, isEscape_upperHex (by decide) rfl (by decide) hcode⟩

end Yaml
end LinkShelf
