import LinkShelf.Proofs.Outcome
import LinkShelf.Text.Utf8

/-! Decoding is the inverse of encoding: the length of a character is read off its first byte, and
every encoded character is within the range of its length. Nothing else is decoded: bytes are a text
only as the ones that encode it. -/
namespace LinkShelf
namespace Utf8

theorem toNat_byte {n : Nat} (h : n < 256) : (UInt8.ofNat n).toNat = n :=
  UInt8.toNat_ofNat_of_lt' h

theorem one?_byte {n : Nat} (h : n < 256) :
    one? (UInt8.ofNat n) = if n < 0x80 then some (Char.ofNat n) else none := by
  have hlt : UInt8.ofNat n < 0x80 ↔ n < 0x80 := by
    rw [UInt8.lt_iff_toNat_lt, toNat_byte h]
    rfl
  simp only [one?, hlt, toNat_byte h]

theorem isTail_byte (n : Nat) : isTail (UInt8.ofNat (0x80 + n % 64)) = true := by
  have htail : (UInt8.ofNat (0x80 + n % 64)).toNat = 0x80 + n % 64 := toNat_byte (by omega)
  simp only [isTail, Bool.and_eq_true, decide_eq_true_eq, UInt8.le_iff_toNat_le,
    UInt8.lt_iff_toNat_lt, htail]
  refine ⟨?_, ?_⟩
  · change 0x80 ≤ 0x80 + n % 64
    omega
  · change 0x80 + n % 64 < 0xC0
    omega

theorem tailBits_byte (n : Nat) : tailBits (UInt8.ofNat (0x80 + n % 64)) = n % 64 := by
  rw [tailBits, toNat_byte (by omega)]
  omega

theorem between_byte {n : Nat} (h : n < 256) (lo hi : UInt8) :
    (lo ≤ UInt8.ofNat n && UInt8.ofNat n < hi) =
      (decide (lo.toNat ≤ n) && decide (n < hi.toNat)) := by
  rw [Bool.eq_iff_iff]
  simp only [Bool.and_eq_true, decide_eq_true_eq, UInt8.le_iff_toNat_le, UInt8.lt_iff_toNat_lt,
    toNat_byte h]

theorem two?_of_high {n : Nat} (h : 0xE0 ≤ n) (h' : n < 256) (b : UInt8) :
    two? (UInt8.ofNat n) b = none := by
  have hhi : (0xE0 : UInt8).toNat = 0xE0 := rfl
  simp only [two?, between_byte h', hhi, decide_eq_false (show ¬ n < 0xE0 by omega)]
  simp

theorem three?_of_high {n : Nat} (h : 0xF0 ≤ n) (h' : n < 256) (b c : UInt8) :
    three? (UInt8.ofNat n) b c = none := by
  have hhi : (0xF0 : UInt8).toNat = 0xF0 := rfl
  simp only [three?, between_byte h', hhi, decide_eq_false (show ¬ n < 0xF0 by omega)]
  simp

theorem two?_bytes {n : Nat} (h : 0x80 ≤ n) (h' : n < 0x800) :
    two? (UInt8.ofNat (0xC0 + n / 64)) (UInt8.ofNat (0x80 + n % 64)) = some (Char.ofNat n) := by
  have hlo : (0xC2 : UInt8).toNat = 0xC2 := rfl
  have hhi : (0xE0 : UInt8).toNat = 0xE0 := rfl
  have hn : (0xC0 + n / 64) % 32 * 64 + n % 64 = n := by omega
  rw [two?, between_byte (by omega), isTail_byte, tailBits_byte, toNat_byte (by omega), hlo, hhi,
    decide_eq_true (by omega), decide_eq_true (by omega), hn]
  rfl

theorem three?_bytes {n : Nat} (h : 0x800 ≤ n) (h' : n < 0x10000)
    (hs : ¬ (0xD800 ≤ n ∧ n < 0xE000)) :
    three? (UInt8.ofNat (0xE0 + n / 4096)) (UInt8.ofNat (0x80 + n / 64 % 64))
      (UInt8.ofNat (0x80 + n % 64)) = some (Char.ofNat n) := by
  have hlo : (0xE0 : UInt8).toNat = 0xE0 := rfl
  have hhi : (0xF0 : UInt8).toNat = 0xF0 := rfl
  have hn : (0xE0 + n / 4096) % 16 * 4096 + n / 64 % 64 * 64 + n % 64 = n := by omega
  have hfirst : 0xE0 + n / 4096 < 256 := by omega
  simp only [three?, between_byte hfirst, isTail_byte, tailBits_byte, toNat_byte hfirst, hlo, hhi,
    hn]
  simp only [Bool.and_true, Bool.and_eq_true, decide_eq_true_eq, Bool.not_eq_true',
    Bool.and_eq_false_imp]
  rw [if_pos]
  refine ⟨⟨⟨by omega, by omega⟩, h⟩, ?_⟩
  intro hd
  simpa using fun he => hs ⟨hd, he⟩

theorem four?_bytes {n : Nat} (h : 0x10000 ≤ n) (h' : n < 0x110000) :
    four? (UInt8.ofNat (0xF0 + n / 262144)) (UInt8.ofNat (0x80 + n / 4096 % 64))
      (UInt8.ofNat (0x80 + n / 64 % 64)) (UInt8.ofNat (0x80 + n % 64)) =
      some (Char.ofNat n) := by
  have hlo : (0xF0 : UInt8).toNat = 0xF0 := rfl
  have hhi : (0xF5 : UInt8).toNat = 0xF5 := rfl
  have hn : (0xF0 + n / 262144) % 8 * 262144 + n / 4096 % 64 * 4096 + n / 64 % 64 * 64 +
      n % 64 = n := by omega
  have hfirst : 0xF0 + n / 262144 < 256 := by omega
  simp only [four?, between_byte hfirst, isTail_byte, tailBits_byte, toNat_byte hfirst, hlo, hhi,
    hn]
  simp only [Bool.and_true, Bool.and_eq_true, decide_eq_true_eq]
  rw [if_pos]
  exact ⟨⟨⟨by omega, by omega⟩, h⟩, h'⟩

section Steps

variable {a b c d : UInt8} {x : Char} (start : Nat) (bs : Bytes)

theorem decodeFrom_one (h : one? a = some x) :
    decodeFrom start (a :: bs) = (decodeFrom (start + 1) bs).map (x :: ·) := by
  rw [decodeFrom.eq_def]
  simp only [h]

theorem decodeFrom_two (h₁ : one? a = none) (h : two? a b = some x) :
    decodeFrom start (a :: b :: bs) = (decodeFrom (start + 2) bs).map (x :: ·) := by
  rw [decodeFrom.eq_def]
  simp only [h₁, h]

theorem decodeFrom_three (h₁ : one? a = none) (h₂ : two? a b = none) (h : three? a b c = some x) :
    decodeFrom start (a :: b :: c :: bs) = (decodeFrom (start + 3) bs).map (x :: ·) := by
  rw [decodeFrom.eq_def]
  simp only [h₁, h₂, h]

theorem decodeFrom_four (h₁ : one? a = none) (h₂ : two? a b = none) (h₃ : three? a b c = none)
    (h : four? a b c d = some x) :
    decodeFrom start (a :: b :: c :: d :: bs) = (decodeFrom (start + 4) bs).map (x :: ·) := by
  rw [decodeFrom.eq_def]
  simp only [h₁, h₂, h₃, h]

end Steps

theorem decodeFrom_encodeChar (start : Nat) (c : Char) (bs : Bytes) :
    decodeFrom start (encodeChar c ++ bs) =
      (decodeFrom (start + (encodeChar c).length) bs).map (c :: ·) := by
  have hc : Char.ofNat c.toNat = c := Char.ofNat_toNat c
  have hvalid : c.toNat < 0xD800 ∨ 0xDFFF < c.toNat ∧ c.toNat < 0x110000 := c.valid
  have hhigh : ∀ {n : Nat}, 0x80 ≤ n → n < 256 → one? (UInt8.ofNat n) = none := by
    intro n h h'
    rw [one?_byte h', if_neg (by omega)]
  simp only [encodeChar]
  by_cases h₁ : c.toNat < 0x80
  · rw [if_pos h₁]
    refine decodeFrom_one start bs ?_
    rw [one?_byte (by omega), if_pos h₁, hc]
  by_cases h₂ : c.toNat < 0x800
  · rw [if_neg h₁, if_pos h₂]
    refine decodeFrom_two start bs (hhigh (by omega) (by omega)) ?_
    rw [two?_bytes (by omega) h₂, hc]
  by_cases h₃ : c.toNat < 0x10000
  · rw [if_neg h₁, if_neg h₂, if_pos h₃]
    refine decodeFrom_three start bs (hhigh (by omega) (by omega))
      (two?_of_high (by omega) (by omega) _) ?_
    rw [three?_bytes (by omega) h₃ (by omega), hc]
  · rw [if_neg h₁, if_neg h₂, if_neg h₃]
    refine decodeFrom_four start bs (hhigh (by omega) (by omega))
      (two?_of_high (by omega) (by omega) _) (three?_of_high (by omega) (by omega) _ _) ?_
    rw [four?_bytes (by omega) (by omega), hc]

theorem decodeFrom_encode (start : Nat) (cs : List Char) :
    decodeFrom start (encode cs) = .ok cs := by
  induction cs generalizing start with
  | nil => rfl
  | cons c cs ih =>
    have hencode : encode (c :: cs) = encodeChar c ++ encode cs := rfl
    rw [hencode, decodeFrom_encodeChar, ih]
    rfl

theorem decode_encode (cs : List Char) : decode (encode cs) = .ok cs := decodeFrom_encode 0 cs

theorem toNat_ofNat_of_valid {n : Nat} (h : n.isValidChar) : (Char.ofNat n).toNat = n := by
  rw [Char.ofNat, dif_pos h]
  rfl

theorem tailBits_lt (b : UInt8) : tailBits b < 64 := Nat.mod_lt _ (by decide)

theorem ofNat_tail {b : UInt8} (h : isTail b = true) : UInt8.ofNat (0x80 + tailBits b) = b := by
  obtain ⟨hlo, hhi⟩ : 0x80 ≤ b.toNat ∧ b.toNat < 0xC0 := by
    simpa [isTail, UInt8.le_iff_toNat_le, UInt8.lt_iff_toNat_lt] using h
  rw [tailBits, show 0x80 + b.toNat % 64 = b.toNat by omega, UInt8.ofNat_toNat]

theorem encodeChar_of_one? {a : UInt8} {x : Char} (h : one? a = some x) : encodeChar x = [a] := by
  obtain ⟨ha, hx⟩ : a.toNat < 0x80 ∧ Char.ofNat a.toNat = x := by
    simpa [one?, UInt8.lt_iff_toNat_lt] using h
  have hn : x.toNat = a.toNat := hx ▸ toNat_ofNat_of_valid (.inl (by omega))
  simp only [encodeChar, hn]
  rw [if_pos ha, UInt8.ofNat_toNat]

theorem encodeChar_of_two? {a b : UInt8} {x : Char} (h : two? a b = some x) :
    encodeChar x = [a, b] := by
  obtain ⟨⟨⟨hlo, hhi⟩, hb⟩, hx⟩ : ((0xC2 ≤ a.toNat ∧ a.toNat < 0xE0) ∧ isTail b = true) ∧
      Char.ofNat (a.toNat % 32 * 64 + tailBits b) = x := by
    simpa [two?, UInt8.le_iff_toNat_le, UInt8.lt_iff_toNat_lt] using h
  have hb' := tailBits_lt b
  have hn : x.toNat = a.toNat % 32 * 64 + tailBits b :=
    hx ▸ toNat_ofNat_of_valid (.inl (by omega))
  have hfirst : 0xC0 + x.toNat / 64 = a.toNat := by omega
  have hsecond : 0x80 + x.toNat % 64 = 0x80 + tailBits b := by omega
  simp only [encodeChar]
  rw [if_neg (by omega), if_pos (by omega), hfirst, hsecond, UInt8.ofNat_toNat, ofNat_tail hb]

theorem encodeChar_of_three? {a b c : UInt8} {x : Char} (h : three? a b c = some x) :
    encodeChar x = [a, b, c] := by
  simp only [three?] at h
  split at h
  case isFalse => cases h
  case isTrue hrange =>
  obtain ⟨⟨⟨⟨⟨hlo, hhi⟩, hb⟩, hc⟩, hlong⟩, hvalid⟩ : ((((0xE0 ≤ a.toNat ∧ a.toNat < 0xF0) ∧
      isTail b = true) ∧ isTail c = true) ∧
      0x800 ≤ a.toNat % 16 * 4096 + tailBits b * 64 + tailBits c) ∧
      (a.toNat % 16 * 4096 + tailBits b * 64 + tailBits c < 0xD800 ∨
        0xE000 ≤ a.toNat % 16 * 4096 + tailBits b * 64 + tailBits c) := by
    simpa [UInt8.le_iff_toNat_le, UInt8.lt_iff_toNat_lt] using hrange
  have hx := Option.some.inj h
  have hb' := tailBits_lt b
  have hc' := tailBits_lt c
  have hn : x.toNat = a.toNat % 16 * 4096 + tailBits b * 64 + tailBits c := by
    refine hx ▸ toNat_ofNat_of_valid ?_
    simp only [Nat.isValidChar]
    omega
  have hfirst : 0xE0 + x.toNat / 4096 = a.toNat := by omega
  have hsecond : 0x80 + x.toNat / 64 % 64 = 0x80 + tailBits b := by omega
  have hthird : 0x80 + x.toNat % 64 = 0x80 + tailBits c := by omega
  simp only [encodeChar]
  rw [if_neg (by omega), if_neg (by omega), if_pos (by omega), hfirst, hsecond, hthird,
    UInt8.ofNat_toNat, ofNat_tail hb, ofNat_tail hc]

theorem encodeChar_of_four? {a b c d : UInt8} {x : Char} (h : four? a b c d = some x) :
    encodeChar x = [a, b, c, d] := by
  simp only [four?] at h
  split at h
  case isFalse => cases h
  case isTrue hrange =>
  obtain ⟨⟨⟨⟨⟨⟨hlo, hhi⟩, hb⟩, hc⟩, hd⟩, hlong⟩, hvalid⟩ :
      (((((0xF0 ≤ a.toNat ∧ a.toNat < 0xF5) ∧ isTail b = true) ∧ isTail c = true) ∧
        isTail d = true) ∧
      0x10000 ≤ a.toNat % 8 * 262144 + tailBits b * 4096 + tailBits c * 64 + tailBits d) ∧
      a.toNat % 8 * 262144 + tailBits b * 4096 + tailBits c * 64 + tailBits d < 0x110000 := by
    simpa [UInt8.le_iff_toNat_le, UInt8.lt_iff_toNat_lt] using hrange
  have hx := Option.some.inj h
  have hb' := tailBits_lt b
  have hc' := tailBits_lt c
  have hd' := tailBits_lt d
  have hn : x.toNat =
      a.toNat % 8 * 262144 + tailBits b * 4096 + tailBits c * 64 + tailBits d := by
    refine hx ▸ toNat_ofNat_of_valid ?_
    simp only [Nat.isValidChar]
    omega
  have hfirst : 0xF0 + x.toNat / 262144 = a.toNat := by omega
  have hsecond : 0x80 + x.toNat / 4096 % 64 = 0x80 + tailBits b := by omega
  have hthird : 0x80 + x.toNat / 64 % 64 = 0x80 + tailBits c := by omega
  have hfourth : 0x80 + x.toNat % 64 = 0x80 + tailBits d := by omega
  simp only [encodeChar]
  rw [if_neg (by omega), if_neg (by omega), if_neg (by omega), hfirst, hsecond, hthird, hfourth,
    UInt8.ofNat_toNat, ofNat_tail hb, ofNat_tail hc, ofNat_tail hd]

theorem eq_encode_of_decodeFrom {start : Nat} {bs : Bytes} {cs : List Char}
    (h : decodeFrom start bs = .ok cs) : bs = encode cs := by
  have hcons : ∀ (x : Char) (cs : List Char), encode (x :: cs) = encodeChar x ++ encode cs :=
    fun _ _ => rfl
  fun_induction decodeFrom start bs generalizing cs with
  | case1 =>
    cases h
    rfl
  | case2 start a x rest hx ih =>
    obtain ⟨ds, hds, rfl⟩ := Outcome.map_eq_ok.mp h
    rw [hcons, encodeChar_of_one? hx, ← ih hds]
    rfl
  | case4 start a _ b x rest hx ih =>
    obtain ⟨ds, hds, rfl⟩ := Outcome.map_eq_ok.mp h
    rw [hcons, encodeChar_of_two? hx, ← ih hds]
    rfl
  | case6 start a _ b _ c x rest hx ih =>
    obtain ⟨ds, hds, rfl⟩ := Outcome.map_eq_ok.mp h
    rw [hcons, encodeChar_of_three? hx, ← ih hds]
    rfl
  | case8 start a _ b _ c _ d rest x hx ih =>
    obtain ⟨ds, hds, rfl⟩ := Outcome.map_eq_ok.mp h
    rw [hcons, encodeChar_of_four? hx, ← ih hds]
    rfl
  | case3 => cases h
  | case5 => cases h
  | case7 => cases h
  | case9 => cases h

/-- Bytes are a text exactly if it has these bytes. -/
theorem decode_eq_ok_iff {bs : Bytes} {cs : List Char} : decode bs = .ok cs ↔ bs = encode cs := by
  constructor
  · exact eq_encode_of_decodeFrom
  · intro h
    rw [h, decode_encode]

end Utf8
end LinkShelf
