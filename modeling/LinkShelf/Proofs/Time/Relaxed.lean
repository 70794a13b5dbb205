import LinkShelf.Proofs.Time.RoundTrip
import LinkShelf.Time.Relaxed

/-! Times that are written in UTC are read back by the relaxed reader, in every year that can be
told. -/
namespace LinkShelf
namespace Time

theorem skipWhite_cons {c : Char} (h : 0x21 ≤ c.toNat ∧ c.toNat < 0x7f) (rest : List Char) :
    skipWhite (c :: rest) = c :: rest := by
  have hall : ∀ n < 0x7f, 0x21 ≤ n → Text.inRanges n Text.whiteRanges = false := by decide
  have hwhite : Text.isWhite c = false := hall c.toNat h.2 h.1
  rw [skipWhite, List.dropWhile_cons, hwhite, if_neg (by decide)]

theorem skipWhite_digit {c : Char} (h : c.isDigit = true) (rest : List Char) :
    skipWhite (c :: rest) = c :: rest := by
  obtain ⟨hlo, hhi⟩ := Char.isDigit_iff_toNat.mp h
  have hzero : '0'.toNat = 48 := rfl
  have hnine : '9'.toNat = 57 := rfl
  exact skipWhite_cons ⟨by omega, by omega⟩ rest

theorem skipWhite_padded (width n : Nat) (rest : List Char) :
    skipWhite (Text.padded width n ++ rest) = Text.padded width n ++ rest := by
  obtain ⟨c, tail, hpadded, hc⟩ := Text.exists_digit_padded width n
  rw [hpadded, List.cons_append, skipWhite_digit hc]

theorem readNumber_padded {width most n : Nat}
    (hmost : (Text.padded width n).length ≤ most) {rest : List Char}
    (hrest : ∀ c ∈ rest.head?, c.isDigit = false) :
    readNumber most (Text.padded width n ++ rest) = .ok (n, rest) := by
  have hsplit := Text.splitDigits_digits (fun c hc => Text.isDigit_padded hc) hmost hrest
  have hvalue := Text.digitsValue_padded width n
  obtain ⟨c, tail, hpadded, hc⟩ := Text.exists_digit_padded width n
  rw [hpadded, List.cons_append] at hsplit
  rw [hpadded] at hvalue
  rw [hpadded, List.cons_append, readNumber, if_pos hc, hsplit]
  simp only [hvalue]

theorem readField_padded {least most n : Nat} (h : n < 100) (hbounds : least ≤ n ∧ n ≤ most)
    {rest : List Char} (hrest : ∀ c ∈ rest.head?, c.isDigit = false) :
    readField least most (Text.padded 2 n ++ rest) = .ok (n, rest) := by
  have hlength := Text.length_padded (by decide : 0 < 2) h
  rw [readField, skipWhite_padded, readNumber_padded (by omega) hrest]
  exact if_pos hbounds

theorem readYear_text {y : Int} (hlo : -2147483648 ≤ y) (hhi : y < 2147483648) {rest : List Char}
    (hrest : ∀ c ∈ rest.head?, c.isDigit = false) : readYear (yearText y ++ rest) = .ok (y, rest) := by
  unfold yearText
  split
  · rename_i hyear
    have hlength := Text.length_padded (by decide : 0 < 4) (by omega : y.toNat < 10 ^ 4)
    have hread := readNumber_padded (by omega : (Text.padded 4 y.toNat).length ≤ 4) hrest
    have hback : (y.toNat : Int) = y := by omega
    obtain ⟨c, tail, hpadded, hc⟩ := Text.exists_digit_padded 4 y.toNat
    rw [hpadded, List.cons_append] at hread ⊢
    rw [readYear, skipWhite_digit hc]
    split
    · rename_i heq
      cases heq
      exact absurd hc (by decide)
    · rename_i heq
      cases heq
      exact absurd hc (by decide)
    · simp only [hread, Except.map, hback]
      exact if_pos ⟨hlo, hhi⟩
  · rename_i hyear
    have hread : readNumber (Text.padded 4 y.natAbs ++ rest).length
        (Text.padded 4 y.natAbs ++ rest) = .ok (y.natAbs, rest) :=
      readNumber_padded (by simp) hrest
    by_cases hneg : y < 0
    · have hback : -(y.natAbs : Int) = y := by omega
      rw [if_pos hneg, List.cons_append, readYear, skipWhite_cons (by decide)]
      simp only [hread, Except.map, hback]
      exact if_pos ⟨hlo, hhi⟩
    · have hback : (y.natAbs : Int) = y := by omega
      rw [if_neg hneg, List.cons_append, readYear, skipWhite_cons (by decide)]
      simp only [hread, Except.map, hback]
      exact if_pos ⟨hlo, hhi⟩

theorem readSpacedMark_self {mark : Char} (h : 0x21 ≤ mark.toNat ∧ mark.toNat < 0x7f)
    (rest : List Char) : readSpacedMark mark (mark :: rest) = .ok rest := by
  rw [readSpacedMark, skipWhite_cons h, readMark_self]

theorem readRelaxedDate_text {d : Date} (hd : d.exists? = true) (hlo : -2147483648 ≤ d.year)
    (hhi : d.year < 2147483648) {rest : List Char} (hrest : ∀ c ∈ rest.head?, c.isDigit = false) :
    readRelaxedDate (d.text ++ rest) = .ok (d, rest) := by
  have hday := Date.day_bounds hd
  have hmonth := Date.month_bounds hd
  have hdash : ∀ (cs : List Char), ∀ c ∈ ('-' :: cs).head?, c.isDigit = false := by simp
  rw [readRelaxedDate, Date.text]
  simp only [List.append_assoc, List.cons_append]
  rw [readYear_text hlo hhi (hdash _)]
  simp only [bind, Except.bind]
  rw [readSpacedMark_self (by decide)]
  simp only
  rw [readField_padded (by omega) (by omega) (hdash _)]
  simp only
  rw [readSpacedMark_self (by decide)]
  simp only
  rw [readField_padded (by omega) (by omega) hrest]

theorem head_fractionText (nano : Nat) {rest : List Char}
    (hrest : ∀ c ∈ rest.head?, c.isDigit = false) :
    ∀ c ∈ (fractionText nano ++ rest).head?, c.isDigit = false := by
  unfold fractionText
  split
  · exact hrest
  · intro c hc
    obtain rfl : '.' = c := by
      split at hc
      · simpa using hc
      · split at hc <;> simpa using hc
    decide

theorem readRelaxedClock_text {second nano : Nat} (hsecond : second < 86400)
    (hnano : nano < 2000000000) {rest : List Char} (hrest : ∀ c ∈ rest.head?, c.isDigit = false ∧ c ≠ '.') :
    readRelaxedClock (clockText second nano ++ rest) = .ok (Clock.ofSecond second nano, rest) := by
  have hcolon : ∀ (cs : List Char), ∀ c ∈ (':' :: cs).head?, c.isDigit = false := by simp
  have hfraction := head_fractionText (nano % 1000000000) fun c hc => (hrest c hc).1
  rw [readRelaxedClock, clockText]
  simp only [List.append_assoc, List.cons_append]
  rw [readField_padded (by omega) (by omega) (hcolon _)]
  simp only [bind, Except.bind]
  rw [readSpacedMark_self (by decide)]
  simp only
  rw [readField_padded (by omega) (by omega) (hcolon _)]
  simp only
  rw [readSpacedMark_self (by decide)]
  simp only
  rw [readField_padded (by omega) (by omega) hfraction]
  simp only
  rw [readFraction_of_fractionText (fractionText_text (by omega)) hrest]
  rfl

theorem daysBeforeYear_mono {y z : Int} (h : y ≤ z) : daysBeforeYear y ≤ daysBeforeYear z := by
  simp only [daysBeforeYear]
  omega

/-- The years in which the first and the last day fall bound all the others. -/
theorem Moment.year_bounds (t : Moment) : -262143 ≤ t.year ∧ t.year ≤ 262142 := by
  have hbounds := yearOfDay_bounds t.day
  have hfirst := t.firstDay_le
  have hlast := t.le_lastDay
  have hyear : t.year = yearOfDay t.day := rfl
  rw [← hyear] at hbounds
  constructor
  · rcases Int.lt_or_le t.year (-262143) with hlt | hle
    · have hmono := daysBeforeYear_mono (by omega : t.year + 1 ≤ -262143)
      have hstart : daysBeforeYear (-262143) = firstDay := by decide
      omega
    · exact hle
  · rcases Int.lt_or_le 262142 t.year with hlt | hle
    · have hmono := daysBeforeYear_mono (by omega : 262143 ≤ t.year)
      have hend : daysBeforeYear 262143 = lastDay + 1 := by decide
      omega
    · exact hle

/-- Every time is read back from its written form as what this tells. -/
theorem Moment.readRelaxed_textZ (m : Moment) : readRelaxed m.textZ = .ok m.told := by
  obtain ⟨hlo, hhi⟩ := m.year_bounds
  have hdate : readRelaxedDate ((Date.ofDay m.day).text ++
      'T' :: (clockText m.second m.nano ++ ['Z'])) =
      .ok (Date.ofDay m.day, 'T' :: (clockText m.second m.nano ++ ['Z'])) :=
    readRelaxedDate_text (Date.exists?_ofDay m.day) (Int.le_trans (by decide) hlo)
      (Int.lt_of_le_of_lt hhi (by decide)) (by simp)
  have hclock : readRelaxedClock (clockText m.second m.nano ++ ['Z']) =
      .ok (Clock.ofSecond m.told.second m.told.nano, ['Z']) := by
    rw [← m.clockText_told]
    exact readRelaxedClock_text m.told.second_lt m.told.nano_lt (by simp)
  have hseparator : ∀ cs, readSeparator ('T' :: cs) = .ok cs := by simp [readSeparator]
  have hzone : readRelaxedZone (skipWhite ['Z']) = .ok (0, []) := by
    rw [skipWhite_cons (by decide)]
    rfl
  have hyear : ((!(Date.ofDay m.day).exists? || decide ((Date.ofDay m.day).year < -262143)) ||
      decide (262142 < (Date.ofDay m.day).year)) = false := by
    have hlt : ¬ (Date.ofDay m.day).year < -262143 := Int.not_lt.mpr hlo
    have hgt : ¬ 262142 < (Date.ofDay m.day).year := Int.not_lt.mpr hhi
    simp [Date.exists?_ofDay, hlt, hgt]
  have hchars : m.textZ.toList =
      (Date.ofDay m.day).text ++ 'T' :: (clockText m.second m.nano ++ ['Z']) := by
    rw [textZ, String.toList_ofList, chars, List.append_assoc, List.cons_append]
  rw [readRelaxed, hchars]
  simp only [bind, Except.bind, hdate, hseparator, hclock, hzone, hyear]
  exact toInstant_eq_ok_iff.mpr m.told.shows_ofSecond

end Time
end LinkShelf
