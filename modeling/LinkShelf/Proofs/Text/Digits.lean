import LinkShelf.Proofs.Outcome
import LinkShelf.Text.Natural
import Mathlib.Algebra.Group.Nat.Defs

/-! Digits that are written are read with the same value, and a number of 64 bits is read back. It
is read from digits alone, however many zeros are in front. -/
namespace LinkShelf
namespace Text

theorem isDigit_toDigits {n : Nat} {c : Char} (h : c ∈ Nat.toDigits 10 n) : c.isDigit = true :=
  Nat.isDigit_of_mem_toDigits (by decide) (by decide) h

theorem isDigit_padded {width n : Nat} {c : Char} (h : c ∈ padded width n) : c.isDigit = true := by
  rcases List.mem_append.mp h with hzero | hdigit
  · rw [(List.mem_replicate.mp hzero).2]
    decide
  · exact isDigit_toDigits hdigit

theorem exists_digit_toDigits (n : Nat) :
    ∃ c cs, Nat.toDigits 10 n = c :: cs ∧ c.isDigit = true := by
  obtain ⟨c, cs, hcs⟩ := List.exists_cons_of_ne_nil (Nat.toDigits_ne_nil (b := 10) (n := n))
  exact ⟨c, cs, hcs, isDigit_toDigits (n := n) (by rw [hcs]; exact List.mem_cons_self)⟩

theorem exists_digit_padded (width n : Nat) :
    ∃ c cs, padded width n = c :: cs ∧ c.isDigit = true := by
  have hne : padded width n ≠ [] := by simp [padded, Nat.toDigits_ne_nil]
  obtain ⟨c, cs, hcs⟩ := List.exists_cons_of_ne_nil hne
  exact ⟨c, cs, hcs, isDigit_padded (by rw [hcs]; exact List.mem_cons_self)⟩

theorem le_length_padded (width n : Nat) : width ≤ (padded width n).length := by
  rw [padded, List.length_append, List.length_replicate]
  omega

theorem length_padded {width n : Nat} (hwidth : 0 < width) (h : n < 10 ^ width) :
    (padded width n).length = width := by
  have hlength : (Nat.toDigits 10 n).length ≤ width :=
    (Nat.length_toDigits_le_iff (by decide) hwidth).mpr h
  rw [padded, List.length_append, List.length_replicate]
  omega

theorem length_le_utf8ByteSize (cs : List Char) : cs.length ≤ (String.ofList cs).utf8ByteSize := by
  induction cs with
  | nil => exact Nat.zero_le _
  | cons c cs ih =>
    have hc : 0 < c.utf8Size := c.utf8Size_pos
    rw [← List.singleton_append, String.ofList_append, String.utf8ByteSize_append,
      ← String.singleton_eq_ofList, String.utf8ByteSize_singleton, List.length_append,
      List.length_singleton]
    omega

theorem digitsValue_append_zeros (ds : List Char) (k : Nat) :
    digitsValue (ds ++ List.replicate k '0') = digitsValue ds * 10 ^ k := by
  rw [digitsValue, Nat.ofDigitChars_append, Nat.ofDigitChars_replicate_zero, Nat.mul_comm]
  rfl

theorem splitDigits_digits_append {ds rest : List Char} (hds : ∀ c ∈ ds, c.isDigit = true)
    (hrest : ∀ c ∈ rest.head?, c.isDigit = false) (most : Nat) :
    splitDigits most (ds ++ rest) = (ds.take most, ds.drop most ++ rest) := by
  induction most generalizing ds with
  | zero => rfl
  | succ most ih =>
    cases ds with
    | nil =>
      cases rest with
      | nil => rfl
      | cons c rest =>
        have hc : c.isDigit = false := hrest c (by simp)
        simp [splitDigits, hc]
    | cons d ds =>
      have hd : d.isDigit = true := hds d (by simp)
      have htail := ih fun c hc => hds c (List.mem_cons_of_mem d hc)
      simp [splitDigits, hd, htail]

theorem splitDigits_digits {most : Nat} {ds : List Char} (hds : ∀ c ∈ ds, c.isDigit = true)
    (hlength : ds.length ≤ most) {rest : List Char} (hrest : ∀ c ∈ rest.head?, c.isDigit = false) :
    splitDigits most (ds ++ rest) = (ds, rest) := by
  rw [splitDigits_digits_append hds hrest, List.take_of_length_le hlength,
    List.drop_of_length_le hlength, List.nil_append]

theorem le_ofDigitChars (n : Nat) (ds : List Char) : n ≤ Nat.ofDigitChars 10 ds n := by
  have hpos : 1 ≤ 10 ^ ds.length := Nat.one_le_pow _ _ (by decide)
  rw [Nat.ofDigitChars_eq_ofDigitChars_zero]
  calc n = 1 * n := (Nat.one_mul n).symm
    _ ≤ 10 ^ ds.length * n := Nat.mul_le_mul_right n hpos
    _ ≤ 10 ^ ds.length * n + Nat.ofDigitChars 10 ds 0 := Nat.le_add_right _ _

theorem readDigitsFrom_digits {n : Nat} {ds : List Char} (hds : ∀ c ∈ ds, c.isDigit = true)
    (h : Nat.ofDigitChars 10 ds n < UInt64.size) :
    readDigitsFrom n ds = .ok (Nat.ofDigitChars 10 ds n) := by
  induction ds generalizing n with
  | nil => rfl
  | cons d ds ih =>
    have hd : d.isDigit = true := hds d (by simp)
    rw [Nat.ofDigitChars_cons] at h ⊢
    have hn : 10 * n + (d.toNat - '0'.toNat) < UInt64.size :=
      Nat.lt_of_le_of_lt (le_ofDigitChars _ ds) h
    simp only [readDigitsFrom, hd, if_true]
    rw [if_pos hn, ih (fun c hc => hds c (by simp [hc])) h]

theorem readUInt64_toString (n : UInt64) : readUInt64 (toString n) = .ok n := by
  have htext : (toString n).toList = Nat.toDigits 10 n.toNat := Nat.toList_repr
  have hread : readDigitsFrom 0 (Nat.toDigits 10 n.toNat) = .ok n.toNat := by
    rw [readDigitsFrom_digits (fun c hc => isDigit_toDigits hc),
      Nat.ofDigitChars_ten_toDigits]
    rw [Nat.ofDigitChars_ten_toDigits]
    exact n.toNat_lt
  have hplus : ∀ cs, Nat.toDigits 10 n.toNat ≠ '+' :: cs := by
    intro cs hcs
    have hdigit : '+'.isDigit = true := isDigit_toDigits (n := n.toNat) (by rw [hcs]; simp)
    exact absurd hdigit (by decide)
  unfold readUInt64
  rw [htext]
  split
  · rename_i hnil
    exact absurd hnil Nat.toDigits_ne_nil
  · rename_i hcs
    exact absurd hcs (hplus _)
  · rename_i hcs
    exact absurd hcs (hplus _)
  · rw [hread]
    exact congrArg Except.ok (UInt64.ofNat_toNat)

theorem digits_of_readDigitsFrom {n m : Nat} {cs : List Char} (hn : n < UInt64.size)
    (h : readDigitsFrom n cs = .ok m) :
    (∀ c ∈ cs, c.isDigit = true) ∧ Nat.ofDigitChars 10 cs n = m ∧ m < UInt64.size := by
  induction cs generalizing n with
  | nil =>
    obtain rfl : n = m := Except.ok.inj h
    exact ⟨nofun, rfl, hn⟩
  | cons c cs ih =>
    simp only [readDigitsFrom] at h
    split at h
    case isFalse => cases h
    case isTrue hc =>
    split at h
    case isFalse => cases h
    case isTrue hsmall =>
    obtain ⟨hcs, hvalue, hm⟩ := ih hsmall h
    refine ⟨?_, by rw [Nat.ofDigitChars_cons, hvalue], hm⟩
    intro d hd
    rcases List.mem_cons.mp hd with rfl | hd
    · exact hc
    · exact hcs d hd

theorem readDigitsFrom_eq_ok_iff {cs : List Char} {m : Nat} :
    readDigitsFrom 0 cs = .ok m ↔
      (∀ c ∈ cs, c.isDigit = true) ∧ digitsValue cs = m ∧ m < UInt64.size := by
  constructor
  · exact digits_of_readDigitsFrom (by decide)
  · rintro ⟨hcs, rfl, hm⟩
    exact readDigitsFrom_digits hcs hm

/-- A number in writing: digits, with or without a plus sign in front. -/
def NumberText (cs : List Char) (n : Nat) : Prop :=
  ∃ ds, (cs = ds ∨ cs = '+' :: ds) ∧ ds ≠ [] ∧ (∀ c ∈ ds, c.isDigit = true) ∧ digitsValue ds = n

theorem map_ofNat_readDigitsFrom {cs : List Char} {n : UInt64} :
    (readDigitsFrom 0 cs).map UInt64.ofNat = .ok n ↔
      (∀ c ∈ cs, c.isDigit = true) ∧ digitsValue cs = n.toNat := by
  rw [Outcome.map_eq_ok]
  constructor
  · rintro ⟨m, hm, rfl⟩
    obtain ⟨hcs, hvalue, hsmall⟩ := readDigitsFrom_eq_ok_iff.mp hm
    rw [UInt64.toNat_ofNat_of_lt' hsmall]
    exact ⟨hcs, hvalue⟩
  · rintro ⟨hcs, hvalue⟩
    exact ⟨n.toNat, readDigitsFrom_eq_ok_iff.mpr ⟨hcs, hvalue, n.toNat_lt⟩, UInt64.ofNat_toNat⟩

/-- The numbers below 2^64 are read from every way to write them, and nothing else is. -/
theorem readUInt64_eq_ok_iff {s : String} {n : UInt64} :
    readUInt64 s = .ok n ↔ NumberText s.toList n.toNat := by
  have hplus : ∀ {ds : List Char}, ¬ ∀ c ∈ '+' :: ds, c.isDigit = true := by
    intro ds hds
    exact absurd (hds '+' (by simp)) (by decide)
  unfold readUInt64
  split
  case h_1 hs =>
    rw [hs]
    refine ⟨nofun, ?_⟩
    rintro ⟨ds, rfl | h, hne, -⟩
    · exact absurd rfl hne
    · cases h
  case h_2 hs =>
    rw [hs]
    refine ⟨nofun, ?_⟩
    rintro ⟨ds, rfl | h, hne, hds, -⟩
    · exact absurd hds hplus
    · exact absurd (List.cons.inj h).2.symm hne
  case h_3 cs hne hs =>
    rw [hs, map_ofNat_readDigitsFrom]
    constructor
    · rintro ⟨hcs, hvalue⟩
      exact ⟨cs, .inr rfl, by simpa using hne, hcs, hvalue⟩
    · rintro ⟨ds, rfl | h, -, hds, hvalue⟩
      · exact absurd hds hplus
      · obtain rfl := (List.cons.inj h).2
        exact ⟨hds, hvalue⟩
  case h_4 cs hnil hone hcons =>
    rw [map_ofNat_readDigitsFrom]
    constructor
    · rintro ⟨hcs, hvalue⟩
      exact ⟨_, .inl rfl, hnil, hcs, hvalue⟩
    · rintro ⟨ds, rfl | h, -, hds, hvalue⟩
      · exact ⟨hds, hvalue⟩
      · exact absurd h (hcons ds)

end Text
end LinkShelf
