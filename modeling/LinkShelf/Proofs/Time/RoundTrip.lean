import LinkShelf.Proofs.Time.Strict
import LinkShelf.Proofs.Time.Told

/-! Times that are written with an offset are strict ones part by part, fractions and leap seconds
included, as long as the year has four digits. So they are read back. -/
namespace LinkShelf
namespace Time

theorem splitMonths_lt {ns : List Nat} {days : Nat} (h : days < daysIn ns) :
    (splitMonths ns days).1 < ns.length ∧
      (splitMonths ns days).2 < ns.getD (splitMonths ns days).1 0 := by
  induction ns generalizing days with
  | nil => exact absurd h (by simp [daysIn])
  | cons n ns ih =>
    by_cases hn : days < n
    · simp [splitMonths, hn]
    · have hrest : days - n < daysIn ns := by
        simp only [daysIn] at h
        omega
      have htail := ih hrest
      simp only [splitMonths, if_neg hn, List.length_cons, List.getD_cons_succ]
      exact ⟨by omega, htail.2⟩

theorem daysIn_monthLengths (leap : Bool) :
    daysIn (monthLengths leap) = if leap then 366 else 365 := by cases leap <;> rfl

theorem length_monthLengths (leap : Bool) : (monthLengths leap).length = 12 := rfl

theorem Date.ofDay_eq (n : Int) :
    Date.ofDay n = ⟨yearOfDay n,
      (splitMonths (monthLengths (isLeap (yearOfDay n)))
        (n - daysBeforeYear (yearOfDay n)).toNat).1 + 1,
      (splitMonths (monthLengths (isLeap (yearOfDay n)))
        (n - daysBeforeYear (yearOfDay n)).toNat).2 + 1⟩ := rfl

/-- Every day has a date that exists. -/
theorem Date.exists?_ofDay (n : Int) : (Date.ofDay n).exists? = true := by
  have hbounds := yearOfDay_bounds n
  have hyear := daysBeforeYear_succ (yearOfDay n)
  have hdays : (n - daysBeforeYear (yearOfDay n)).toNat <
      daysIn (monthLengths (isLeap (yearOfDay n))) := by
    rw [daysIn_monthLengths]
    by_cases hleap : isLeap (yearOfDay n) = true
    · rw [if_pos hleap] at hyear ⊢
      omega
    · rw [if_neg hleap] at hyear ⊢
      omega
  obtain ⟨hmonth, hday⟩ := splitMonths_lt hdays
  rw [length_monthLengths] at hmonth
  simp only [Date.exists?, Date.ofDay_eq, Nat.add_sub_cancel, Bool.and_eq_true]
  exact ⟨⟨⟨decide_eq_true (by omega), decide_eq_true (by omega)⟩, decide_eq_true (by omega)⟩,
    decide_eq_true hday⟩

theorem numeral_padded {width n : Nat} (hwidth : 0 < width) (h : n < 10 ^ width) :
    Numeral width (Text.padded width n) n :=
  ⟨Text.length_padded hwidth h, fun _ hc => Text.isDigit_padded hc, Text.digitsValue_padded width n⟩

theorem Date.month_bounds {d : Date} (h : d.exists? = true) : 1 ≤ d.month ∧ d.month ≤ 12 := by
  simp only [Date.exists?, Bool.and_eq_true, decide_eq_true_eq] at h
  exact h.1.1

theorem Date.day_bounds {d : Date} (h : d.exists? = true) : 1 ≤ d.day ∧ d.day ≤ 31 := by
  obtain ⟨hlo, hhi⟩ := Date.month_bounds h
  simp only [Date.exists?, Bool.and_eq_true, decide_eq_true_eq] at h
  have hlengths : ∀ leap, ∀ i < 12, (monthLengths leap).getD i 0 ≤ 31 := by decide
  have hlength := hlengths (isLeap d.year) (d.month - 1) (by omega)
  exact ⟨h.1.2, by omega⟩

theorem dateText_text {d : Date} (hd : d.exists? = true) (hlo : 0 ≤ d.year) (hhi : d.year ≤ 9999) :
    DateText d.text d := by
  have hmonth := Date.month_bounds hd
  have hday := Date.day_bounds hd
  have hyear : yearText d.year = Text.padded 4 d.year.toNat := by rw [yearText, if_pos ⟨hlo, hhi⟩]
  have hback : (d.year.toNat : Int) = d.year := by omega
  have hys : Numeral 4 (Text.padded 4 d.year.toNat) d.year.toNat :=
    numeral_padded (by decide) (by omega)
  have hms : Numeral 2 (Text.padded 2 d.month) d.month := numeral_padded (by decide) (by omega)
  have hds : Numeral 2 (Text.padded 2 d.day) d.day := numeral_padded (by decide) (by omega)
  have htext := DateText.intro hys hms hds (by rwa [hback])
  rw [hback] at htext
  rwa [Date.text, hyear]

theorem fractionText_padded {width n : Nat} (hwidth : 0 < width) (hmost : width ≤ 9)
    (h : n < 10 ^ width) : FractionText ('.' :: Text.padded width n) (n * 10 ^ (9 - width)) := by
  have hlength := Text.length_padded hwidth h
  have hne : Text.padded width n ≠ [] := List.ne_nil_of_length_pos (by omega)
  have hfilled : (Text.padded width n ++ List.replicate 9 '0').take 9 =
      Text.padded width n ++ List.replicate (9 - width) '0' := by
    rw [List.take_append, List.take_of_length_le (by omega), List.take_replicate, hlength]
    congr 2
    omega
  have hvalue : Text.digitsValue (Text.padded width n ++ List.replicate (9 - width) '0') =
      n * 10 ^ (9 - width) := by
    rw [Text.digitsValue_append_zeros, Text.digitsValue_padded]
  have htext := FractionText.digits hne fun c hc => Text.isDigit_padded hc
  rwa [hfilled, hvalue] at htext

theorem fractionText_text {nano : Nat} (h : nano < 1000000000) :
    FractionText (fractionText nano) nano := by
  unfold fractionText
  split
  · rename_i hzero
    rw [hzero]
    exact .none
  split
  · rename_i hmilli
    have htext := fractionText_padded (by decide) (by decide : 3 ≤ 9)
      (by omega : nano / 1000000 < 10 ^ 3)
    rwa [show nano / 1000000 * 10 ^ (9 - 3) = nano by omega] at htext
  split
  · rename_i hmicro
    have htext := fractionText_padded (by decide) (by decide : 6 ≤ 9)
      (by omega : nano / 1000 < 10 ^ 6)
    rwa [show nano / 1000 * 10 ^ (9 - 6) = nano by omega] at htext
  · have htext := fractionText_padded (by decide) (by decide : 9 ≤ 9) (by omega : nano < 10 ^ 9)
    rwa [show nano * 10 ^ (9 - 9) = nano by omega] at htext

def Clock.ofSecond (second nano : Nat) : Clock :=
  ⟨second / 3600, second / 60 % 60, second % 60 + nano / 1000000000, nano % 1000000000⟩

theorem clockText_text {second nano : Nat} (hsecond : second < 86400) (hnano : nano < 2000000000) :
    ClockText (clockText second nano) (Clock.ofSecond second nano) := by
  have hexists : (Clock.ofSecond second nano).exists? = true := by
    show (decide (second / 3600 < 24) && decide (second / 60 % 60 < 60) &&
      decide (second % 60 + nano / 1000000000 ≤ 60)) = true
    simp only [Bool.and_eq_true, decide_eq_true_eq]
    omega
  have htext : ClockText _ (Clock.ofSecond second nano) := .intro
    (numeral_padded (by decide) (by omega)) (numeral_padded (by decide) (by omega))
    (numeral_padded (by decide) (by omega)) (fractionText_text (by omega)) hexists
  simpa [clockText] using htext

/-- An instant is what a clock shows in UTC in its second of its day. -/
theorem Instant.shows_ofSecond (t : Instant) :
    Shows (Date.ofDay t.day) (Clock.ofSecond t.second t.nano) 0 t := by
  have hsecond := t.second_lt
  have hnano := t.nano_lt
  have hleap := t.leap
  refine ⟨by decide, ?_, ?_⟩
  · have hday : (Clock.ofSecond t.second t.nano).secondOfDay = t.second := by
      simp only [Clock.secondOfDay, Clock.ofSecond]
      omega
    rw [Date.toDay_ofDay, hday]
    omega
  · show t.nano = t.nano % 1000000000 +
      (if t.second % 60 + t.nano / 1000000000 = 60 then 1000000000 else 0)
    split <;> omega

namespace Moment

variable {m : Moment}

theorem le_length_chars (m : Moment) (zone : List Char) : 19 ≤ (m.chars zone).length := by
  have hyear : 4 ≤ (yearText (Date.ofDay m.day).year).length := by
    unfold yearText
    split
    · exact Text.le_length_padded 4 _
    · exact Nat.le_succ_of_le (Text.le_length_padded 4 _)
  have hmonth := Text.le_length_padded 2 (Date.ofDay m.day).month
  have hday := Text.le_length_padded 2 (Date.ofDay m.day).day
  have hhour := Text.le_length_padded 2 (m.second / 3600)
  have hminute := Text.le_length_padded 2 (m.second / 60 % 60)
  have hsecond := Text.le_length_padded 2 (m.second % 60 + m.nano / 1000000000)
  simp only [chars, Date.text, clockText, List.length_append, List.length_cons]
  omega

theorem not_tooShort_textOffset (m : Moment) : ¬ m.textOffset.utf8ByteSize < 19 := by
  have hlength := Text.length_le_utf8ByteSize (m.chars "+00:00".toList)
  have hchars := m.le_length_chars "+00:00".toList
  simp only [textOffset]
  omega

theorem readStrict_textOffset (hlo : 0 ≤ m.year) (hhi : m.year ≤ 9999) :
    readStrict m.textOffset = .ok m.told := by
  have hdate := dateText_text (Date.exists?_ofDay m.day) hlo hhi
  have hclock := clockText_text m.told.second_lt m.told.nano_lt
  have hdigit : '0'.isDigit = true := by decide
  have hzero : Numeral 2 ['0', '0'] 0 := ⟨rfl, by simp [hdigit], by decide⟩
  have hzone : ZoneText "+00:00".toList 0 := .ahead (.intro hzero hzero (by decide))
  rw [m.clockText_told] at hclock
  rw [readStrict_eq_ok_iff, textOffset, String.toList_ofList, chars]
  exact .intro hdate (.inl rfl) hclock hzone m.told.shows_ofSecond

/-- Any other year is written with a sign, and that is refused. -/
theorem readStrict_textOffset_of_sign (h : ¬ (0 ≤ m.year ∧ m.year ≤ 9999)) :
    readStrict m.textOffset = .error .invalid := by
  have hyear : yearText (Date.ofDay m.day).year = (if m.year < 0 then '-' else '+') ::
      Text.padded 4 (Date.ofDay m.day).year.natAbs := if_neg h
  have hsign : (if m.year < 0 then '-' else '+').isDigit = false := by split <;> decide
  obtain ⟨cs, htext⟩ : ∃ cs, m.textOffset.toList = (if m.year < 0 then '-' else '+') :: cs := by
    rw [textOffset, String.toList_ofList, chars, Date.text, hyear]
    exact ⟨_, rfl⟩
  have hdigits : readDigits 4 ((if m.year < 0 then '-' else '+') :: cs) = .error .invalid := by
    rw [readDigits, takeDigits, hsign]
    rfl
  rw [readStrict, if_neg m.not_tooShort_textOffset, htext, readDate, hdigits]
  rfl

end Moment

end Time
end LinkShelf
