import LinkShelf.Time.Printer

/-! What a written time tells. A moment that a clock shows is told as it is. Any other one is written as
a fraction of the second that follows its own, so that what is told is another moment. -/
namespace LinkShelf
namespace Time
namespace Moment

variable (m : Moment)

def year : Int := (Date.ofDay m.day).year

/-- How many seconds later the moment is told than it is. -/
def carry : Nat := if m.IsInstant then 0 else 1

theorem carry_cases :
    m.IsInstant ∧ m.carry = 0 ∨ 1000000000 ≤ m.nano ∧ m.second % 60 ≠ 59 ∧ m.carry = 1 := by
  unfold carry
  split
  · rename_i h
    exact .inl ⟨h, rfl⟩
  · rename_i h
    obtain ⟨hnano, hsecond⟩ := Classical.not_imp.mp h
    exact .inr ⟨hnano, hsecond, rfl⟩

theorem leap_carry :
    1000000000 ≤ m.nano - 1000000000 * m.carry → (m.second + m.carry) % 60 = 59 := by
  have hnano := m.nano_lt
  rcases m.carry_cases with ⟨hinstant, hcarry⟩ | ⟨-, -, hcarry⟩
  · rw [hcarry]
    exact hinstant
  · omega

/-- The instant that the written form of the moment tells. -/
def told : Instant where
  day := m.day
  second := m.second + m.carry
  nano := m.nano - 1000000000 * m.carry
  firstDay_le := m.firstDay_le
  le_lastDay := m.le_lastDay
  second_lt := by
    have hsecond := m.second_lt
    rcases m.carry_cases with ⟨-, hcarry⟩ | ⟨-, hlast, hcarry⟩ <;> omega
  nano_lt := Nat.lt_of_le_of_lt (Nat.sub_le _ _) m.nano_lt
  leap := m.leap_carry

theorem told_eq_iff : (m.told : Moment) = m ↔ m.IsInstant := by
  rcases m.carry_cases with ⟨hinstant, hcarry⟩ | ⟨hnano, hsecond, hcarry⟩
  · refine iff_of_true ?_ hinstant
    ext <;> simp [told, hcarry]
  · refine iff_of_false (fun h => ?_) fun h => hsecond (h hnano)
    have hsame : m.second + m.carry = m.second := congrArg Moment.second h
    omega

/-- The moment is written as the instant that it tells. -/
theorem clockText_told : clockText m.told.second m.told.nano = clockText m.second m.nano := by
  have hnano := m.nano_lt
  rcases m.carry_cases with ⟨-, hcarry⟩ | ⟨hlong, hlast, hcarry⟩
  · simp only [told, hcarry, Nat.add_zero, Nat.mul_zero, Nat.sub_zero]
  · have hhour : (m.second + 1) / 3600 = m.second / 3600 := by omega
    have hminute : (m.second + 1) / 60 % 60 = m.second / 60 % 60 := by omega
    have hsecond : (m.second + 1) % 60 + (m.nano - 1000000000) / 1000000000 =
        m.second % 60 + m.nano / 1000000000 := by omega
    have hfraction : (m.nano - 1000000000) % 1000000000 = m.nano % 1000000000 := by omega
    simp only [clockText, told, hcarry, Nat.mul_one, hhour, hminute, hsecond, hfraction]

end Moment

theorem Instant.isInstant (t : Instant) : (t : Moment).IsInstant := t.leap

end Time
end LinkShelf
