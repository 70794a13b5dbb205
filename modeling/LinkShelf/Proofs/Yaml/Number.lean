import LinkShelf.Proofs.Json.Tokens
import LinkShelf.Yaml.Value

/-! A number that is written in decimal is read back, where there may be a number or nothing. -/
namespace LinkShelf
namespace Yaml
namespace Scalar

def pushDigit (base n : Nat) (c : Char) : Option Nat := do
  let d ← Json.hexValue? c
  if d < base && base * n + d < UInt64.size then some (base * n + d) else none

theorem ofDigits?_eq (base : Nat) (cs : List Char) : ofDigits? base cs =
    if cs.isEmpty then none else (cs.foldlM (pushDigit base) 0).map UInt64.ofNat := rfl

theorem pushDigit_of_isDigit {n : Nat} {c : Char} (hc : c.isDigit = true)
    (h : 10 * n + (c.toNat - '0'.toNat) < UInt64.size) :
    pushDigit 10 n c = some (10 * n + (c.toNat - '0'.toNat)) := by
  have hrange : '0' ≤ c ∧ c ≤ '9' := by simpa [Char.isDigit, Char.le_def] using hc
  have hvalue : Json.hexValue? c = some (c.toNat - '0'.toNat) := if_pos hrange
  have hten : c.toNat - '0'.toNat < 10 := by
    have hhi := (Char.isDigit_iff_toNat.mp hc).2
    have hnine : '9'.toNat = 57 := rfl
    have hzero : '0'.toNat = 48 := rfl
    omega
  rw [pushDigit, hvalue]
  simp only [Option.bind_eq_bind, Option.bind_some, hten, h, decide_true, Bool.and_self, if_true]

theorem foldlM_pushDigit {n : Nat} {ds : List Char} (hds : ∀ c ∈ ds, c.isDigit = true)
    (h : Nat.ofDigitChars 10 ds n < UInt64.size) :
    ds.foldlM (pushDigit 10) n = some (Nat.ofDigitChars 10 ds n) := by
  induction ds generalizing n with
  | nil => rfl
  | cons d ds ih =>
    obtain ⟨hd, hds⟩ := List.forall_mem_cons.mp hds
    rw [Nat.ofDigitChars_cons] at h ⊢
    have hn := Nat.lt_of_le_of_lt (Text.le_ofDigitChars _ ds) h
    rw [List.foldlM_cons, pushDigit_of_isDigit hd hn]
    exact ih hds h

variable (n : UInt64)

theorem ofDigits?_toDigits : ofDigits? 10 (Nat.toDigits 10 n.toNat) = some n := by
  have hvalue : Nat.ofDigitChars 10 (Nat.toDigits 10 n.toNat) 0 = n.toNat :=
    Nat.ofDigitChars_ten_toDigits
  have hread := foldlM_pushDigit (n := 0) (fun c hc => Text.isDigit_toDigits hc)
    (hvalue.symm ▸ n.toNat_lt)
  have hnonempty : (Nat.toDigits 10 n.toNat).isEmpty = false := by simp [Nat.toDigits_ne_nil]
  rw [ofDigits?_eq, hnonempty, hread, hvalue]
  simp

theorem isNull?_toDigits :
    isNull? { text := String.ofList (Nat.toDigits 10 n.toNat) } = some false := by
  obtain ⟨d, ds, hds, hd⟩ := Text.exists_digit_toDigits n.toNat
  have hword : ∀ {c : Char} {cs : List Char}, c.isDigit = false →
      String.ofList (d :: ds) ≠ String.ofList (c :: cs) := by
    intro c cs hc heq
    have hsame : d :: ds = c :: cs := by simpa using congrArg String.toList heq
    rw [(List.cons.inj hsame).1, hc] at hd
    cases hd
  have hnull : isNullWord { text := String.ofList (d :: ds) } = false := by
    simp only [isNullWord, List.contains_cons, List.contains_nil, Bool.or_false,
      Bool.or_eq_false_iff, beq_eq_false_iff_ne]
    exact ⟨hword (c := 'n') rfl, hword (c := 'N') rfl, hword (c := 'N') rfl, hword (c := '~') rfl⟩
  have hnonempty : (String.ofList (d :: ds)).isEmpty = false := by simp
  rw [hds, isNull?]
  simp only [hnull, hnonempty]
  rfl

/-- A number is written without a zero in front, which would announce another base. -/
theorem uint64?_toDigits :
    uint64? { text := String.ofList (Nat.toDigits 10 n.toNat) } = some n := by
  have hdigits := ofDigits?_toDigits n
  have hlead : ∀ x xs, Nat.toDigits 10 n.toNat ≠ '0' :: x :: xs := by
    intro x xs heq
    have hhead := Json.head_toDigits (n := n.toNat) (by simp [heq])
    exact hhead (by rw [heq]; rfl)
  obtain ⟨d, ds, hds, hd⟩ := Text.exists_digit_toDigits n.toNat
  have hplus : ((d :: ds).head? == some '+') = false := by
    have hne : d ≠ '+' := by
      rintro rfl
      cases hd
    simpa using hne
  rw [hds] at hdigits hlead ⊢
  have hstyle : mayBe { text := String.ofList (d :: ds) } "int" = true := rfl
  simp only [uint64?, hstyle, Bool.not_true, Bool.false_eq_true, if_false, String.toList_ofList, hplus]
  split
  case h_5 => exact hdigits
  all_goals
    rename_i heq
    exact absurd heq (hlead _ _)

theorem optionalUInt64?_toDigits :
    optionalUInt64? { text := String.ofList (Nat.toDigits 10 n.toNat) } = some (some n) := by
  rw [optionalUInt64?, isNull?_toDigits, uint64?_toDigits]
  rfl

end Scalar
end Yaml
end LinkShelf
