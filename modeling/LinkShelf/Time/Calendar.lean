/-! The calendar: years, months and days as one count of days. -/
namespace LinkShelf
namespace Time

def isLeap (year : Int) : Bool := year % 4 == 0 && (year % 100 != 0 || year % 400 == 0)

/-- The days before 1 January of the year; 1 January of year 1 is day 0. -/
def daysBeforeYear (year : Int) : Int :=
  365 * (year - 1) + (year - 1) / 4 - (year - 1) / 100 + (year - 1) / 400

theorem daysBeforeYear_succ (year : Int) :
    daysBeforeYear (year + 1) = daysBeforeYear year + if isLeap year then 366 else 365 := by
  by_cases h : isLeap year
  · rw [if_pos h]
    simp only [isLeap, Bool.and_eq_true, Bool.or_eq_true, beq_iff_eq, bne_iff_ne] at h
    simp only [daysBeforeYear]
    omega
  · rw [if_neg h]
    simp only [isLeap, Bool.and_eq_true, Bool.or_eq_true, beq_iff_eq, bne_iff_ne] at h
    simp only [daysBeforeYear]
    omega

def monthLengths (leap : Bool) : List Nat :=
  [31, if leap then 29 else 28, 31, 30, 31, 30, 31, 31, 30, 31, 30, 31]

def daysIn : List Nat → Nat
  | [] => 0
  | n :: ns => n + daysIn ns

/-- The whole months that have passed after `days` days, and the days since. -/
def splitMonths : List Nat → Nat → Nat × Nat
  | [], days => (0, days)
  | n :: ns, days =>
    if days < n then (0, days)
    else ((splitMonths ns (days - n)).1 + 1, (splitMonths ns (days - n)).2)

theorem splitMonths_days (ns : List Nat) (days : Nat) :
    daysIn (ns.take (splitMonths ns days).1) + (splitMonths ns days).2 = days := by
  induction ns generalizing days with
  | nil => simp [splitMonths, daysIn]
  | cons n ns ih =>
    by_cases h : days < n
    · simp [splitMonths, h, daysIn]
    · have := ih (days - n)
      simp only [splitMonths, if_neg h, List.take_succ_cons, daysIn]
      omega

structure Date where
  year : Int
  month : Nat
  day : Nat
  deriving DecidableEq, Repr

namespace Date

def exists? (d : Date) : Bool :=
  1 ≤ d.month && d.month ≤ 12 && 1 ≤ d.day &&
    d.day ≤ (monthLengths (isLeap d.year)).getD (d.month - 1) 0

def toDay (d : Date) : Int :=
  daysBeforeYear d.year + daysIn ((monthLengths (isLeap d.year)).take (d.month - 1)) +
    (d.day - 1 : Nat)

end Date

/-- The year that a day falls in: an estimate by the mean length of a year, off by one at most. -/
def yearOfDay (n : Int) : Int :=
  let y := 400 * n / 146097 + 1
  if n < daysBeforeYear y then y - 1 else if daysBeforeYear (y + 1) ≤ n then y + 1 else y

theorem yearOfDay_bounds (n : Int) :
    daysBeforeYear (yearOfDay n) ≤ n ∧ n < daysBeforeYear (yearOfDay n + 1) := by
  simp only [yearOfDay]
  split
  · rename_i h
    simp only [daysBeforeYear] at h ⊢
    omega
  · split
    · rename_i h₁ h₂
      simp only [daysBeforeYear] at h₁ h₂ ⊢
      omega
    · omega

def Date.ofDay (n : Int) : Date :=
  let year := yearOfDay n
  let (months, days) := splitMonths (monthLengths (isLeap year)) (n - daysBeforeYear year).toNat
  ⟨year, months + 1, days + 1⟩

theorem Date.toDay_ofDay (n : Int) : (Date.ofDay n).toDay = n := by
  have h := splitMonths_days (monthLengths (isLeap (yearOfDay n)))
    (n - daysBeforeYear (yearOfDay n)).toNat
  have b := yearOfDay_bounds n
  simp only [ofDay, toDay, Nat.add_sub_cancel]
  omega

end Time
end LinkShelf
