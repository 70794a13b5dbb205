import LinkShelf.Time.Instant

/-! The order of time: of two moments one is before the other, unless they are the same. -/
namespace LinkShelf
namespace Time
namespace Moment

variable {a b c : Moment}

theorem before_iff :
    a.before b = true ↔ a.day < b.day ∨ a.day = b.day ∧
      (a.second < b.second ∨ a.second = b.second ∧ a.nano < b.nano) := by
  simp [before]

theorem before_irrefl (a : Moment) : a.before a = false := by
  simp [before]

theorem before_trans (hab : a.before b = true) (hbc : b.before c = true) : a.before c = true := by
  rw [before_iff] at *
  omega

/-- Leap seconds and fractions are told apart: what is neither earlier nor later is the same. -/
theorem eq_of_not_before (hab : a.before b = false) (hba : b.before a = false) : a = b := by
  have hab' : ¬ a.before b = true := by simp [hab]
  have hba' : ¬ b.before a = true := by simp [hba]
  rw [before_iff] at hab' hba'
  ext <;> omega

def yearOne : Moment := ⟨0, 0, 0, by decide, by decide, by decide, by decide⟩

end Moment
end Time
end LinkShelf
