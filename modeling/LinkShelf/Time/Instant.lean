import LinkShelf.Time.Calendar

/-! Points in time, to the nanosecond, with leap seconds. -/
namespace LinkShelf
namespace Time

/-- The first day that can be told: 1 January of year -262143. -/
def firstDay : Int := -95746130

/-- The last day that can be told: 31 December of year 262142. -/
def lastDay : Int := 95745398

theorem firstDay_eq : firstDay = (Date.mk (-262143) 1 1).toDay := by decide
theorem lastDay_eq : lastDay = (Date.mk 262142 12 31).toDay := by decide

/-- A point in time in UTC. With a `nano` of 10^9 or more it lies behind its second. Behind the last
second of a minute that is a leap second, the second 60. Behind any other second it is shown as a
fraction of the second that follows, though in order it still comes before that one. -/
@[ext] structure Moment where
  day : Int
  second : Nat
  nano : Nat
  firstDay_le : firstDay ≤ day
  le_lastDay : day ≤ lastDay
  second_lt : second < 86400
  nano_lt : nano < 2000000000
  deriving DecidableEq, Repr

namespace Moment

def before (a b : Moment) : Bool :=
  a.day < b.day || (a.day == b.day &&
    (a.second < b.second || (a.second == b.second && a.nano < b.nano)))

/-- Whether it is a moment that a clock shows: what lies behind its second is a leap second. -/
def IsInstant (m : Moment) : Prop := 1000000000 ≤ m.nano → m.second % 60 = 59

instance (m : Moment) : Decidable m.IsInstant := inferInstanceAs (Decidable (_ → _))

end Moment

/-- A moment that a clock shows and that a written time tells. -/
@[ext] structure Instant extends Moment where
  leap : 1000000000 ≤ nano → second % 60 = 59
  deriving DecidableEq, Repr

instance : Coe Instant Moment := ⟨Instant.toMoment⟩

namespace Instant

def ofParts? (day : Int) (second nano : Nat) : Option Instant :=
  if h : firstDay ≤ day ∧ day ≤ lastDay ∧ second < 86400 ∧ nano < 2000000000 ∧
      (1000000000 ≤ nano → second % 60 = 59) then
    some ⟨⟨day, second, nano, h.1, h.2.1, h.2.2.1, h.2.2.2.1⟩, h.2.2.2.2⟩
  else none

theorem ofParts?_self (t : Instant) : ofParts? t.day t.second t.nano = some t := by
  rw [ofParts?, dif_pos ⟨t.firstDay_le, t.le_lastDay, t.second_lt, t.nano_lt, t.leap⟩]

/-- The instant shown by a clock that is `offset` seconds ahead of UTC. -/
def ofLocal? (date : Date) (second nano : Nat) (offset : Int) : Option Instant :=
  let s : Int := second - offset
  ofParts? (date.toDay + s / 86400) (s % 86400).toNat nano

end Instant
end Time
end LinkShelf
