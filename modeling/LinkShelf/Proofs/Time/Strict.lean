import LinkShelf.Proofs.Text.Digits
import LinkShelf.Proofs.Text.Items
import LinkShelf.Time.Strict

/-! The grammar of strict times, beside their reader: the texts that are read, and the instant that
each of them tells. -/
namespace LinkShelf
namespace Time

structure Numeral (width : Nat) (cs : List Char) (n : Nat) : Prop where
  length : cs.length = width
  isDigit : ∀ c ∈ cs, c.isDigit = true
  value : Text.digitsValue cs = n

/-- Year, month and day of a date that exists. -/
inductive DateText : List Char → Date → Prop
  | intro {ys ms ds : List Char} {year month day : Nat} (hyear : Numeral 4 ys year)
    (hmonth : Numeral 2 ms month) (hday : Numeral 2 ds day)
    (h : (Date.mk year month day).exists? = true) :
    DateText (ys ++ '-' :: ms ++ '-' :: ds) ⟨year, month, day⟩

/-- A point and digits behind it, or nothing; in nanoseconds, so that from the tenth on no digit
counts. -/
inductive FractionText : List Char → Nat → Prop
  | none : FractionText [] 0
  | digits {ds : List Char} (hne : ds ≠ []) (hds : ∀ c ∈ ds, c.isDigit = true) :
    FractionText ('.' :: ds) (Text.digitsValue ((ds ++ List.replicate 9 '0').take 9))

/-- Hour, minute and second of a time of day that exists, and the fraction. -/
inductive ClockText : List Char → Clock → Prop
  | intro {hs ms ss fs : List Char} {hour minute second nano : Nat} (hhour : Numeral 2 hs hour)
    (hminute : Numeral 2 ms minute) (hsecond : Numeral 2 ss second) (hnano : FractionText fs nano)
    (h : (Clock.mk hour minute second nano).exists? = true) :
    ClockText (hs ++ ':' :: ms ++ ':' :: ss ++ fs) ⟨hour, minute, second, nano⟩

/-- Hours and minutes of an offset, in seconds. -/
inductive OffsetText : List Char → Nat → Prop
  | intro {hs ms : List Char} {hour minute : Nat} (hhour : Numeral 2 hs hour)
    (hminute : Numeral 2 ms minute) (h : minute < 60) :
    OffsetText (hs ++ ':' :: ms) (hour * 3600 + minute * 60)

/-- The letter for UTC, or a sign and an offset. The minus sign has two forms. -/
inductive ZoneText : List Char → Int → Prop
  | utc {c : Char} (hc : c = 'Z' ∨ c = 'z') : ZoneText [c] 0
  | ahead {cs : List Char} {n : Nat} (h : OffsetText cs n) : ZoneText ('+' :: cs) n
  | behind {c : Char} {cs : List Char} {n : Nat} (hc : c = '-' ∨ c = '−') (h : OffsetText cs n) :
    ZoneText (c :: cs) (-n)

/-- The instant is the one that a clock shows which is `offset` seconds ahead of UTC. -/
structure Shows (date : Date) (clock : Clock) (offset : Int) (t : Instant) : Prop where
  offset_lt : offset.natAbs < 86400
  seconds : t.day * 86400 + t.second = date.toDay * 86400 + clock.secondOfDay - offset
  nanos : t.nano = clock.nanos

/-- Date, time of day and zone, with a mark between the first two, and the instant they tell. -/
inductive StrictText : List Char → Instant → Prop
  | intro {ds cs zs : List Char} {mark : Char} {date : Date} {clock : Clock} {offset : Int}
    {t : Instant} (hdate : DateText ds date) (hmark : mark = 'T' ∨ mark = 't' ∨ mark = ' ')
    (hclock : ClockText cs clock) (hzone : ZoneText zs offset) (h : Shows date clock offset t) :
    StrictText (ds ++ mark :: cs ++ zs) t

section Parts

variable {cs rest : List Char}

theorem takeDigits_digits {ds : List Char} (hds : ∀ c ∈ ds, c.isDigit = true)
    (rest : List Char) : takeDigits ds.length (ds ++ rest) = .ok (ds, rest) := by
  induction ds with
  | nil => rfl
  | cons d ds ih =>
    have hd : d.isDigit = true := hds d (by simp)
    simp only [List.length_cons, List.cons_append, takeDigits, hd, if_true,
      ih fun c hc => hds c (by simp [hc])]
    rfl

theorem takeDigits_eq_ok_iff {n : Nat} {ds : List Char} :
    takeDigits n cs = .ok (ds, rest) ↔
      ds.length = n ∧ (∀ c ∈ ds, c.isDigit = true) ∧ cs = ds ++ rest := by
  constructor
  · intro h
    induction n generalizing cs ds with
    | zero =>
      cases h
      exact ⟨rfl, nofun, rfl⟩
    | succ n ih =>
      cases cs with
      | nil => cases h
      | cons c cs =>
        simp only [takeDigits] at h
        split at h
        case isFalse => cases h
        case isTrue hc =>
        obtain ⟨⟨es, _⟩, htail, heq⟩ := Outcome.map_eq_ok.mp h
        cases heq
        obtain ⟨hlength, hes, rfl⟩ := ih htail
        refine ⟨by rw [List.length_cons, hlength], ?_, rfl⟩
        simpa using ⟨hc, hes⟩
  · rintro ⟨rfl, hds, rfl⟩
    exact takeDigits_digits hds rest

theorem readDigits_eq_ok_iff {width n : Nat} :
    readDigits width cs = .ok (n, rest) ↔ ∃ ds, Numeral width ds n ∧ cs = ds ++ rest := by
  rw [readDigits, Outcome.map_eq_ok]
  constructor
  · rintro ⟨⟨ds, _⟩, htake, heq⟩
    cases heq
    obtain ⟨hlength, hds, htext⟩ := takeDigits_eq_ok_iff.mp htake
    exact ⟨ds, ⟨hlength, hds, rfl⟩, htext⟩
  · rintro ⟨ds, ⟨hlength, hds, rfl⟩, htext⟩
    exact ⟨(ds, rest), takeDigits_eq_ok_iff.mpr ⟨hlength, hds, htext⟩, rfl⟩

@[simp] theorem readMark_self (mark : Char) (rest : List Char) :
    readMark mark (mark :: rest) = .ok rest := by simp [readMark]

theorem readMark_eq_ok_iff {mark : Char} : readMark mark cs = .ok rest ↔ cs = mark :: rest := by
  cases cs with
  | nil => simp [readMark]
  | cons c cs =>
    by_cases hc : c = mark
    · simp [readMark, hc]
    · simp [readMark, hc]

theorem readSeparator_eq_ok_iff : readSeparator cs = .ok rest ↔
    ∃ mark, (mark = 'T' ∨ mark = 't' ∨ mark = ' ') ∧ cs = mark :: rest := by
  cases cs with
  | nil => simp [readSeparator]
  | cons c cs =>
    rw [readSeparator]
    constructor
    · intro h
      obtain ⟨hc, heq⟩ := Outcome.ite_eq_ok.mp h
      exact ⟨c, hc, congrArg (c :: ·) (Except.ok.inj heq)⟩
    · rintro ⟨mark, hmark, heq⟩
      obtain ⟨rfl, rfl⟩ := List.cons.inj heq
      exact if_pos hmark

theorem readDate_eq_ok_iff {d : Date} :
    readDate cs = .ok (d, rest) ↔ ∃ ds, DateText ds d ∧ cs = ds ++ rest := by
  simp only [readDate, Outcome.bind_eq_ok, Outcome.ite_eq_ok, Prod.exists, readDigits_eq_ok_iff,
    readMark_eq_ok_iff]
  constructor
  · rintro ⟨year, _, ⟨ys, hyear, rfl⟩, _, rfl, month, _, ⟨ms, hmonth, rfl⟩, _, rfl, day, _,
      ⟨ds, hday, rfl⟩, hexists, heq⟩
    cases heq
    exact ⟨_, .intro hyear hmonth hday hexists, by simp⟩
  · rintro ⟨_, ⟨hyear, hmonth, hday, hexists⟩, rfl⟩
    simp only [List.append_assoc, List.cons_append]
    exact ⟨_, _, ⟨_, hyear, rfl⟩, _, rfl, _, _, ⟨_, hmonth, rfl⟩, _, rfl, _, _, ⟨_, hday, rfl⟩,
      hexists, rfl⟩

theorem readNanos_append {ds : List Char} (hne : ds ≠ []) (hds : ∀ c ∈ ds, c.isDigit = true)
    (hrest : ∀ c ∈ rest.head?, c.isDigit = false) :
    readNanos (ds ++ rest) =
      .ok (Text.digitsValue ((ds ++ List.replicate 9 '0').take 9), rest) := by
  have hsplit := Text.splitDigits_digits_append hds hrest 9
  have hdrop : (ds.drop 9 ++ rest).dropWhile Char.isDigit = rest := by
    rw [List.dropWhile_append_of_pos fun c hc => hds c (List.mem_of_mem_drop hc),
      Text.dropWhile_of_head hrest]
  have hfilled : ds.take 9 ++ List.replicate (9 - (ds.take 9).length) '0' =
      (ds ++ List.replicate 9 '0').take 9 := by
    rw [List.take_append, List.take_replicate, List.length_take]
    congr 2
    omega
  obtain ⟨d, es, rfl⟩ := List.exists_cons_of_ne_nil hne
  have hd : d.isDigit = true := hds d (by simp)
  rw [List.cons_append] at hsplit ⊢
  simp only [readNanos, hd, if_true, hsplit, hdrop, hfilled]

theorem readNanos_eq_ok_iff {n : Nat} : readNanos cs = .ok (n, rest) ↔
    ∃ ds, ds ≠ [] ∧ (∀ c ∈ ds, c.isDigit = true) ∧ (∀ c ∈ rest.head?, c.isDigit = false) ∧
      cs = ds ++ rest ∧ Text.digitsValue ((ds ++ List.replicate 9 '0').take 9) = n := by
  constructor
  · intro h
    have hdigits : ∀ c ∈ cs.takeWhile Char.isDigit, c.isDigit = true :=
      List.all_eq_true.mp List.all_takeWhile
    have hrest : ∀ c ∈ (cs.dropWhile Char.isDigit).head?, c.isDigit = false := Text.head?_dropWhile
    have hne : cs.takeWhile Char.isDigit ≠ [] := by
      cases cs with
      | nil => cases h
      | cons c cs =>
        simp only [readNanos, Outcome.ite_eq_ok] at h
        simp [h.1]
    have hread := readNanos_append hne hdigits hrest
    rw [List.takeWhile_append_dropWhile, h] at hread
    cases hread
    exact ⟨_, hne, hdigits, hrest, (List.takeWhile_append_dropWhile ..).symm, rfl⟩
  · rintro ⟨ds, hne, hds, hrest, rfl, rfl⟩
    exact readNanos_append hne hds hrest

theorem fractionText_of_readFraction {n : Nat} (h : readFraction cs = .ok (n, rest)) :
    ∃ fs, FractionText fs n ∧ cs = fs ++ rest := by
  unfold readFraction at h
  split at h
  · obtain ⟨ds, hne, hds, -, rfl, rfl⟩ := readNanos_eq_ok_iff.mp h
    exact ⟨_, .digits hne hds, rfl⟩
  · cases h
    exact ⟨[], .none, rfl⟩

theorem readFraction_of_fractionText {fs : List Char} {n : Nat} (h : FractionText fs n)
    (hrest : ∀ c ∈ rest.head?, c.isDigit = false ∧ c ≠ '.') :
    readFraction (fs ++ rest) = .ok (n, rest) := by
  cases h with
  | none =>
    rw [List.nil_append]
    unfold readFraction
    split
    · exact absurd rfl (hrest '.' (by simp)).2
    · rfl
  | digits hne hds =>
    exact readNanos_eq_ok_iff.mpr ⟨_, hne, hds, fun c hc => (hrest c hc).1, rfl, rfl⟩

theorem clockText_of_readClock {clock : Clock} (h : readClock cs = .ok (clock, rest)) :
    ∃ text, ClockText text clock ∧ cs = text ++ rest := by
  simp only [readClock, Outcome.bind_eq_ok, Outcome.ite_eq_ok, Prod.exists, readDigits_eq_ok_iff,
    readMark_eq_ok_iff] at h
  obtain ⟨hour, _, ⟨hs, hhour, rfl⟩, _, rfl, minute, _, ⟨ms, hminute, rfl⟩, _, rfl, second, _,
    ⟨ss, hsecond, rfl⟩, nano, _, hfraction, hexists, heq⟩ := h
  cases heq
  obtain ⟨fs, hnano, rfl⟩ := fractionText_of_readFraction hfraction
  exact ⟨_, .intro hhour hminute hsecond hnano hexists, by simp⟩

theorem readClock_of_clockText {text : List Char} {clock : Clock} (h : ClockText text clock)
    (hrest : ∀ c ∈ rest.head?, c.isDigit = false ∧ c ≠ '.') :
    readClock (text ++ rest) = .ok (clock, rest) := by
  obtain ⟨hhour, hminute, hsecond, hnano, hexists⟩ := h
  simp only [readClock, Outcome.bind_eq_ok, Outcome.ite_eq_ok, Prod.exists, readDigits_eq_ok_iff,
    readMark_eq_ok_iff, List.append_assoc, List.cons_append]
  exact ⟨_, _, ⟨_, hhour, rfl⟩, _, rfl, _, _, ⟨_, hminute, rfl⟩, _, rfl, _, _, ⟨_, hsecond, rfl⟩,
    _, _, readFraction_of_fractionText hnano hrest, hexists, rfl⟩

theorem digitsValue_lt_sixty_iff {a b : Char} (ha : a.isDigit = true) (hb : b.isDigit = true) :
    Text.digitsValue [a, b] < 60 ↔ a ≤ '5' := by
  have hle : a ≤ '5' ↔ a.toNat ≤ 53 := Iff.rfl
  have ha' : 48 ≤ a.toNat ∧ a.toNat ≤ 57 := Char.isDigit_iff_toNat.mp ha
  have hb' : 48 ≤ b.toNat ∧ b.toNat ≤ 57 := Char.isDigit_iff_toNat.mp hb
  have hvalue : Text.digitsValue [a, b] = 10 * (a.toNat - 48) + (b.toNat - 48) := by
    simp [Text.digitsValue, Nat.ofDigitChars_cons]
  rw [hvalue, hle]
  omega

theorem numeral_two_iff {ds : List Char} {n : Nat} : Numeral 2 ds n ↔
    ∃ a b, ds = [a, b] ∧ (a.isDigit = true ∧ b.isDigit = true) ∧ Text.digitsValue [a, b] = n := by
  constructor
  · rintro ⟨hlength, hdigits, rfl⟩
    match ds, hlength with
    | [a, b], _ => exact ⟨a, b, rfl, by simpa using hdigits, rfl⟩
  · rintro ⟨a, b, rfl, hdigits, rfl⟩
    exact ⟨rfl, by simpa using hdigits, rfl⟩

theorem readOffsetClock_eq_ok_iff {n : Nat} : readOffsetClock (readMark ':') cs = .ok (n, rest) ↔
    ∃ text, OffsetText text n ∧ cs = text ++ rest := by
  constructor
  · intro h
    unfold readOffsetClock at h
    split at h
    · obtain ⟨hhour, hbehind⟩ := Outcome.ite_eq_ok.mp h
      obtain ⟨behind, hmark, hminutes⟩ := Outcome.bind_eq_ok.mp hbehind
      obtain rfl := readMark_eq_ok_iff.mp hmark
      split at hminutes
      · obtain ⟨hminute, hrange⟩ := Outcome.ite_eq_ok.mp hminutes
        obtain ⟨hle, heq⟩ := Outcome.ite_eq_ok.mp hrange
        cases heq
        rw [Bool.and_eq_true] at hhour hminute
        have hlt := (digitsValue_lt_sixty_iff hminute.1 hminute.2).mpr hle
        exact ⟨_, .intro (numeral_two_iff.mpr ⟨_, _, rfl, hhour, rfl⟩)
          (numeral_two_iff.mpr ⟨_, _, rfl, hminute, rfl⟩) hlt, rfl⟩
      · split at hminutes <;> cases hminutes
      · cases hminutes
    · split at h <;> cases h
    · cases h
  · rintro ⟨_, ⟨hhour, hminute, hlt⟩, rfl⟩
    obtain ⟨a, b, rfl, hab, rfl⟩ := numeral_two_iff.mp hhour
    obtain ⟨c, d, rfl, hcd, rfl⟩ := numeral_two_iff.mp hminute
    have hle := (digitsValue_lt_sixty_iff hcd.1 hcd.2).mp hlt
    simp [readOffsetClock, hab, hcd, hle, bind, Except.bind]

theorem readZone_eq_ok_iff {offset : Int} : readZone (readMark ':') cs = .ok (offset, rest) ↔
    ∃ text, ZoneText text offset ∧ cs = text ++ rest := by
  constructor
  · intro h
    unfold readZone at h
    split at h
    · cases h
    split at h
    · rename_i hc
      cases h
      exact ⟨_, .utc hc, rfl⟩
    split at h
    · rename_i hc
      obtain ⟨⟨n, rest'⟩, hoffset, heq⟩ := Outcome.map_eq_ok.mp h
      cases heq
      obtain ⟨text, htext, rfl⟩ := readOffsetClock_eq_ok_iff.mp hoffset
      exact ⟨_, .ahead htext, hc ▸ rfl⟩
    · obtain ⟨hc, hmap⟩ := Outcome.ite_eq_ok.mp h
      obtain ⟨⟨n, rest'⟩, hoffset, heq⟩ := Outcome.map_eq_ok.mp hmap
      cases heq
      obtain ⟨text, htext, rfl⟩ := readOffsetClock_eq_ok_iff.mp hoffset
      exact ⟨_, .behind hc htext, rfl⟩
  · rintro ⟨_, htext, rfl⟩
    have hclock : ∀ {text : List Char} {n : Nat}, OffsetText text n →
        readOffsetClock (readMark ':') (text ++ rest) = .ok (n, rest) :=
      fun h => readOffsetClock_eq_ok_iff.mpr ⟨_, h, rfl⟩
    cases htext with
    | utc hc => exact if_pos hc
    | ahead hoffset =>
      have hread := hclock hoffset
      rw [List.cons_append, readZone, hread, if_neg (by decide), if_pos rfl]
      rfl
    | @behind c _ _ hc hoffset =>
      have hread := hclock hoffset
      have hutc : ¬ (c = 'Z' ∨ c = 'z') := by rcases hc with rfl | rfl <;> decide
      have hplus : c ≠ '+' := by rcases hc with rfl | rfl <;> decide
      rw [List.cons_append, readZone, hread, if_neg hutc, if_neg hplus, if_pos hc]
      rfl

theorem head?_of_zoneText {zs : List Char} {offset : Int} (h : ZoneText zs offset) :
    ∀ c ∈ zs.head?, c.isDigit = false ∧ c ≠ '.' := by
  intro d hd
  cases h with
  | utc hc =>
    obtain rfl := Option.some.inj hd
    rcases hc with rfl | rfl <;> decide
  | ahead h =>
    obtain rfl := Option.some.inj hd
    decide
  | behind hc h =>
    obtain rfl := Option.some.inj hd
    rcases hc with rfl | rfl <;> decide

end Parts

namespace Instant

theorem ofParts?_eq_some_iff {day : Int} {second nano : Nat} {t : Instant} :
    ofParts? day second nano = some t ↔ t.day = day ∧ t.second = second ∧ t.nano = nano := by
  constructor
  · intro h
    simp only [ofParts?] at h
    split at h
    · cases h
      exact ⟨rfl, rfl, rfl⟩
    · cases h
  · rintro ⟨rfl, rfl, rfl⟩
    exact ofParts?_self t

theorem ofLocal?_eq_some_iff {date : Date} {second nano : Nat} {offset : Int} {t : Instant} :
    ofLocal? date second nano offset = some t ↔
      t.day * 86400 + t.second = date.toDay * 86400 + second - offset ∧ t.nano = nano := by
  have hsecond := t.second_lt
  simp only [ofLocal?, ofParts?_eq_some_iff]
  constructor
  · rintro ⟨hday, hsec, hnano⟩
    exact ⟨by omega, hnano⟩
  · rintro ⟨hseconds, hnano⟩
    exact ⟨by omega, by omega, hnano⟩

end Instant

theorem toInstant_eq_ok_iff {date : Date} {clock : Clock} {offset : Int} {t : Instant} :
    toInstant date clock offset = .ok t ↔ Shows date clock offset t := by
  rw [toInstant, Outcome.ite_eq_ok]
  constructor
  · rintro ⟨hoffset, h⟩
    split at h
    · rename_i hlocal
      cases h
      obtain ⟨hseconds, hnanos⟩ := Instant.ofLocal?_eq_some_iff.mp hlocal
      exact ⟨hoffset, hseconds, hnanos⟩
    · cases h
  · rintro ⟨hoffset, hseconds, hnanos⟩
    rw [Instant.ofLocal?_eq_some_iff.mpr ⟨hseconds, hnanos⟩]
    exact ⟨hoffset, rfl⟩

theorem le_length_of_strictText {cs : List Char} {t : Instant} (h : StrictText cs t) :
    19 ≤ cs.length := by
  obtain ⟨⟨hyear, hmonth, hday, -⟩, -, ⟨hhour, hminute, hsecond, -, -⟩, -, -⟩ := h
  simp only [List.length_append, List.length_cons, hyear.length, hmonth.length, hday.length,
    hhour.length, hminute.length, hsecond.length]
  omega

/-- The times that are read are those of the grammar, and each gives the instant it tells. -/
theorem readStrict_eq_ok_iff {s : String} {t : Instant} :
    readStrict s = .ok t ↔ StrictText s.toList t := by
  constructor
  · intro h
    unfold readStrict at h
    split at h
    · cases h
    simp only [Outcome.bind_eq_ok, Outcome.ite_eq_ok, Prod.exists, readDate_eq_ok_iff,
      readSeparator_eq_ok_iff, readZone_eq_ok_iff, throw, throwThe, MonadExceptOf.throw] at h
    obtain ⟨date, _, ⟨ds, hdate, hs⟩, _, ⟨mark, hmark, rfl⟩, clock, _, hread, offset, rest,
      ⟨zs, hzone, rfl⟩, hend, ht⟩ := h
    obtain ⟨cs, hclock, rfl⟩ := clockText_of_readClock hread
    obtain rfl : rest = [] := by simpa using hend
    have htext : s.toList = ds ++ mark :: cs ++ zs := by simp [hs]
    rw [htext]
    exact .intro hdate hmark hclock hzone (toInstant_eq_ok_iff.mp ht)
  · intro h
    have hlength := le_length_of_strictText h
    have hsize := Text.length_le_utf8ByteSize s.toList
    rw [String.ofList_toList] at hsize
    unfold readStrict
    rw [if_neg (by omega)]
    generalize s.toList = text at h
    obtain ⟨hdate, hmark, hclock, hzone, ht⟩ := h
    simp only [Outcome.bind_eq_ok, Outcome.ite_eq_ok, Prod.exists, readDate_eq_ok_iff,
      readSeparator_eq_ok_iff, readZone_eq_ok_iff, throw, throwThe, MonadExceptOf.throw]
    simp only [List.append_assoc, List.cons_append]
    exact ⟨_, _, ⟨_, hdate, rfl⟩, _, ⟨_, hmark, rfl⟩, _, _,
      readClock_of_clockText hclock (head?_of_zoneText hzone), _, [], ⟨_, hzone, by simp⟩, rfl,
      toInstant_eq_ok_iff.mpr ht⟩

end Time
end LinkShelf
