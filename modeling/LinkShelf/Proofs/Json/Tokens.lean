import LinkShelf.Json.Printer
import LinkShelf.Json.Reader
import LinkShelf.Proofs.Text.Digits
import LinkShelf.Text.White

/-! Strings and numbers that are printed as JSON are read back, whatever follows them. -/
namespace LinkShelf
namespace Json

theorem hexValue?_hexDigit {n : Nat} (h : n < 16) : hexValue? (hexDigit n) = some n := by
  have hall : ∀ n < 16, hexValue? (hexDigit n) = some n := by decide
  exact hall n h

theorem readEscape_control {c : Char} (hc : c.toNat < 0x20) (rest : List Char) :
    readEscape ('u' :: '0' :: '0' :: hexDigit (c.toNat / 16) :: hexDigit (c.toNat % 16) :: rest) =
      some (c, rest) := by
  have hzero : hexValue? '0' = some 0 := by decide
  have hhigh := hexValue?_hexDigit (by omega : c.toNat / 16 < 16)
  have hlow := hexValue?_hexDigit (by omega : c.toNat % 16 < 16)
  have hvalue : (0 * 16 + 0) * 256 + c.toNat / 16 * 16 + c.toNat % 16 = c.toNat := by omega
  have hunit : readUnit ('0' :: '0' :: hexDigit (c.toNat / 16) :: hexDigit (c.toNat % 16) :: rest) =
      some (c.toNat, rest) := by
    simp only [readUnit, hzero, hhigh, hlow, Option.bind_eq_bind, Option.bind_some, hvalue]
  rw [readEscape, readEscapedUnit, hunit]
  simp only [Option.bind_eq_bind, Option.bind_some]
  rw [if_neg (by omega), if_neg (by omega), Char.ofNat_toNat]

theorem escapeChar_cases (c : Char) :
    escapeChar c = [c] ∧ c ≠ '"' ∧ c ≠ '\\' ∧ ¬ c.toNat < 0x20 ∨
      ∃ escape, escapeChar c = '\\' :: escape ∧
        ∀ rest, readEscape (escape ++ rest) = some (c, rest) := by
  unfold escapeChar
  split
  · exact .inr ⟨['"'], rfl, by simp [*, readEscape]⟩
  split
  · exact .inr ⟨['\\'], rfl, by simp [*, readEscape]⟩
  split
  · exact .inr ⟨['b'], rfl, by simp [*, readEscape]⟩
  split
  · exact .inr ⟨['f'], rfl, by simp [*, readEscape]⟩
  split
  · exact .inr ⟨['n'], rfl, by simp [*, readEscape]⟩
  split
  · exact .inr ⟨['r'], rfl, by simp [*, readEscape]⟩
  split
  · exact .inr ⟨['t'], rfl, by simp [*, readEscape]⟩
  split
  · rename_i hcontrol
    exact .inr ⟨_, rfl, readEscape_control hcontrol⟩
  · rename_i hquote hslash _ _ _ _ _ hcontrol
    exact .inl ⟨rfl, hquote, hslash, hcontrol⟩

theorem readChars_escapeChar (fuel : Nat) (c : Char) (rest : List Char) :
    readChars (fuel + 1) (escapeChar c ++ rest) =
      (readChars fuel rest).map fun (cs, rest) => (c :: cs, rest) := by
  obtain ⟨hplain, hquote, hslash, hcontrol⟩ | ⟨escape, hescape, hread⟩ := escapeChar_cases c
  · rw [hplain, List.singleton_append, readChars, if_neg hquote, if_neg hslash, if_neg hcontrol]
    cases readChars fuel rest <;> rfl
  · rw [hescape, List.cons_append, readChars, if_neg (by decide), if_pos rfl, hread]
    simp only [Option.bind_eq_bind, Option.bind_some]
    cases readChars fuel rest <;> rfl

theorem readChars_escaped {cs : List Char} {fuel : Nat} (hfuel : cs.length < fuel)
    (rest : List Char) :
    readChars fuel (cs.flatMap escapeChar ++ '"' :: rest) = some (cs, rest) := by
  induction cs generalizing fuel with
  | nil =>
    obtain ⟨fuel, rfl⟩ := Nat.exists_eq_succ_of_ne_zero (Nat.ne_of_gt hfuel)
    rfl
  | cons c cs ih =>
    obtain ⟨fuel, rfl⟩ := Nat.exists_eq_succ_of_ne_zero (Nat.ne_zero_of_lt hfuel)
    rw [List.flatMap_cons, List.append_assoc, readChars_escapeChar, ih (by simpa using hfuel)]
    rfl

theorem length_le_flatMap_escapeChar (cs : List Char) :
    cs.length ≤ (cs.flatMap escapeChar).length := by
  induction cs with
  | nil => exact Nat.le_refl 0
  | cons c cs ih =>
    have hc : 1 ≤ (escapeChar c).length := by
      obtain ⟨hplain, -⟩ | ⟨escape, hescape, -⟩ := escapeChar_cases c
      · rw [hplain]
        exact Nat.le_refl 1
      · rw [hescape]
        exact Nat.le_add_left 1 _
    simp only [List.flatMap_cons, List.length_append, List.length_cons]
    omega

theorem readString_printed (s : String) (rest : List Char) :
    readString (s.toList.flatMap escapeChar ++ '"' :: rest) = some (s, rest) := by
  have hlength := length_le_flatMap_escapeChar s.toList
  rw [readString, readChars_escaped (by simp only [List.length_append]; omega), Option.map_some]
  simp only [String.ofList_toList]

/-- The rest of a text in which no number goes on. -/
def EndsNumber (rest : List Char) : Prop :=
  ∀ c ∈ rest.head?, c.isDigit = false ∧ c ≠ '.' ∧ c ≠ 'e' ∧ c ≠ 'E'

theorem readDigits_toDigits (n : Nat) {rest : List Char}
    (hrest : ∀ c ∈ rest.head?, c.isDigit = false) :
    readDigits (Nat.toDigits 10 n ++ rest) = (Nat.toDigits 10 n, rest) := by
  have hdigits : ∀ c ∈ Nat.toDigits 10 n, c.isDigit = true := fun c hc => Text.isDigit_toDigits hc
  have htake : rest.takeWhile Char.isDigit = [] := by
    cases rest with
    | nil => rfl
    | cons c rest => simp [hrest c (by simp)]
  have hdrop : rest.dropWhile Char.isDigit = rest := Text.dropWhile_of_head hrest
  rw [readDigits, List.takeWhile_append_of_pos hdigits, List.dropWhile_append_of_pos hdigits,
    htake, hdrop, List.append_nil]

theorem ofDigitChars_lt {ds : List Char} (hds : ∀ c ∈ ds, c.isDigit = true) :
    Nat.ofDigitChars 10 ds 0 < 10 ^ ds.length := by
  induction ds with
  | nil => decide
  | cons d ds ih =>
    have hd : d.toNat - '0'.toNat ≤ 9 := by
      have hhi := (Char.isDigit_iff_toNat.mp (hds d (by simp))).2
      have hnine : '9'.toNat = 57 := rfl
      have hzero : '0'.toNat = 48 := rfl
      omega
    have htail := ih fun c hc => hds c (by simp [hc])
    rw [Nat.ofDigitChars_cons, Nat.ofDigitChars_eq_ofDigitChars_zero, List.length_cons,
      Nat.pow_succ]
    calc 10 ^ ds.length * (10 * 0 + (d.toNat - '0'.toNat)) + Nat.ofDigitChars 10 ds 0
        ≤ 10 ^ ds.length * 9 + Nat.ofDigitChars 10 ds 0 := by
          rw [Nat.mul_zero, Nat.zero_add]
          exact Nat.add_le_add_right (Nat.mul_le_mul_left _ hd) _
      _ < 10 ^ ds.length * 9 + 10 ^ ds.length := Nat.add_lt_add_left htail _
      _ = 10 ^ ds.length * 10 := by omega

theorem head_toDigits {n : Nat} (h : 1 < (Nat.toDigits 10 n).length) :
    (Nat.toDigits 10 n).head? ≠ some '0' := by
  -- without the zero the digits would have the same value, and be too few for it
  intro hhead
  obtain ⟨ds, hds⟩ := List.head?_eq_some_iff.mp hhead
  rw [hds, List.length_cons] at h
  have hdigits : ∀ c ∈ ds, c.isDigit = true := by
    intro c hc
    exact Text.isDigit_toDigits (n := n) (by rw [hds]; exact List.mem_cons_of_mem _ hc)
  have hvalue : Nat.ofDigitChars 10 ds 0 = n := by
    have hback := Nat.ofDigitChars_ten_toDigits (n := n)
    rwa [hds, Nat.ofDigitChars_cons] at hback
  have hlt : n < 10 ^ ds.length := hvalue ▸ ofDigitChars_lt hdigits
  have hshort := (Nat.length_toDigits_le_iff (by decide) (by omega : 0 < ds.length)).mpr hlt
  rw [hds, List.length_cons] at hshort
  omega

theorem toDigits_wellFormed (n : Nat) : ((Nat.toDigits 10 n).isEmpty ||
    (decide ((Nat.toDigits 10 n).length > 1) && (Nat.toDigits 10 n).head? == some '0')) = false := by
  have hne : (Nat.toDigits 10 n).isEmpty = false := by simp [Nat.toDigits_ne_nil]
  rw [hne, Bool.false_or]
  by_cases hlong : 1 < (Nat.toDigits 10 n).length
  · simp [head_toDigits hlong]
  · simp [hlong]

theorem toDigits_append_ne (n : Nat) {c : Char} (hc : c.isDigit = false) (rest tail : List Char) :
    Nat.toDigits 10 n ++ rest ≠ c :: tail := by
  intro heq
  obtain ⟨d, ds, hds, hdigit⟩ := Text.exists_digit_toDigits n
  rw [hds, List.cons_append] at heq
  cases heq
  simp [hc] at hdigit

theorem readFraction_absent {rest : List Char} (hrest : ∀ c ∈ rest.head?, c ≠ '.') :
    readFraction rest = some ([], rest) := by
  unfold readFraction
  split
  · exact absurd rfl (hrest '.' (by simp))
  · rfl

theorem readExponent_absent {rest : List Char} (hrest : EndsNumber rest) :
    readExponent rest = some (none, rest) := by
  unfold readExponent
  split
  · exact absurd rfl (hrest 'e' (by simp)).2.2.1
  · exact absurd rfl (hrest 'E' (by simp)).2.2.2
  · rfl

theorem readExponent_printed (e : Int) {rest : List Char}
    (hrest : ∀ c ∈ rest.head?, c.isDigit = false) :
    readExponent ('e' :: ((if e < 0 then ['-'] else []) ++ Nat.toDigits 10 e.natAbs ++ rest)) =
      some (some e, rest) := by
  have hne : (Nat.toDigits 10 e.natAbs).isEmpty = false := by simp [Nat.toDigits_ne_nil]
  have hdigits := readDigits_toDigits e.natAbs hrest
  have hdash := toDigits_append_ne e.natAbs (c := '-') (by decide) rest
  have hplus := toDigits_append_ne e.natAbs (c := '+') (by decide) rest
  have hvalue : Nat.ofDigitChars 10 (Nat.toDigits 10 e.natAbs) 0 = e.natAbs :=
    Nat.ofDigitChars_ten_toDigits
  rw [List.append_assoc]
  by_cases he : e < 0
  · have hback : -(e.natAbs : Int) = e := by omega
    rw [if_pos he, List.singleton_append, readExponent]
    simp only [hdigits, hne, hvalue, hback, if_true, if_false, Bool.false_eq_true]
  · have hback : (e.natAbs : Int) = e := by omega
    rw [if_neg he, List.nil_append, readExponent]
    · simp only [hdigits, hne, hvalue, hback, if_false, Bool.false_eq_true]
    · exact hdash
    · exact hplus

theorem readNumber_digits (negative : Bool) (n : Nat) {tail : List Char}
    (htail : ∀ c ∈ tail.head?, c.isDigit = false ∧ c ≠ '.') :
    readNumber ((if negative then ['-'] else []) ++ Nat.toDigits 10 n ++ tail) =
      (readExponent tail).map fun (exponent, rest) =>
        (match exponent with
          | none => Number.whole negative n
          | some e => Number.real negative n e, rest) := by
  have hdigits := readDigits_toDigits n fun c hc => (htail c hc).1
  have hfraction := readFraction_absent fun c hc => (htail c hc).2
  have hdash := toDigits_append_ne n (c := '-') (by decide) tail
  have hform := toDigits_wellFormed n
  cases negative with
  | true =>
    rw [if_pos rfl, List.append_assoc, List.singleton_append, readNumber]
    simp only [hdigits, hform, hfraction, Option.bind_eq_bind, Option.bind_some]
    rcases readExponent tail with _ | ⟨_ | e, rest⟩ <;> simp [Nat.ofDigitChars_ten_toDigits]
  | false =>
    rw [if_neg (by decide), List.nil_append, readNumber]
    · simp only [hdigits, hform, hfraction, Option.bind_eq_bind, Option.bind_some]
      rcases readExponent tail with _ | ⟨_ | e, rest⟩ <;> simp [Nat.ofDigitChars_ten_toDigits]
    · exact hdash

theorem printNumber_head (n : Number) :
    ∃ c tail, printNumber n = c :: tail ∧ (c = '-' ∨ c.isDigit = true) := by
  have hhead : ∀ (negative : Bool) n tail, ∃ c rest,
      (if negative then ['-'] else []) ++ (Nat.toDigits 10 n ++ tail) = c :: rest ∧
        (c = '-' ∨ c.isDigit = true) := by
    intro negative n tail
    cases negative with
    | true => exact ⟨'-', _, rfl, .inl rfl⟩
    | false =>
      obtain ⟨d, ds, hds, hd⟩ := Text.exists_digit_toDigits n
      exact ⟨d, ds ++ tail, by rw [hds]; rfl, .inr hd⟩
  cases n with
  | whole negative n => simpa only [printNumber, List.append_nil] using hhead negative n []
  | real negative n e => simpa only [printNumber, List.append_assoc] using hhead negative n _

/-- A number that is printed is read back, up to a rest in which it does not go on. -/
theorem readNumber_printNumber (n : Number) {rest : List Char} (hrest : EndsNumber rest) :
    readNumber (printNumber n ++ rest) = some (n, rest) := by
  cases n with
  | whole negative n =>
    rw [printNumber, readNumber_digits negative n fun c hc => ⟨(hrest c hc).1, (hrest c hc).2.1⟩,
      readExponent_absent hrest]
    rfl
  | real negative n e =>
    have htail : printNumber (.real negative n e) ++ rest =
        (if negative then ['-'] else []) ++ Nat.toDigits 10 n ++
          'e' :: ((if e < 0 then ['-'] else []) ++ Nat.toDigits 10 e.natAbs ++ rest) := by
      simp only [printNumber, List.append_assoc, List.cons_append, List.nil_append]
    rw [htail, readNumber_digits negative n (by simp),
      readExponent_printed e fun c hc => (hrest c hc).1]
    rfl

end Json
end LinkShelf
