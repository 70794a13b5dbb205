import LinkShelf.Store.Shelf

/-! The ids of links: the next one is the least that is greater than all others, so links that are
made one after the other have the ids from zero on. -/
namespace LinkShelf
namespace Link

variable {links : List Link} {n : UInt64}

/-- The next id is greater than all that are taken, and no other such is less. -/
theorem nextId?_spec (h : nextId? links = some n) :
    (∀ l ∈ links, l.id.toNat < n.toNat) ∧
      ∀ k : Nat, (∀ l ∈ links, l.id.toNat < k) → n.toNat ≤ k := by
  induction links generalizing n with
  | nil =>
    obtain rfl : 0 = n := by simpa [nextId?] using h
    exact ⟨by simp, fun k _ => Nat.zero_le k⟩
  | cons l links ih =>
    simp only [nextId?] at h
    split at h
    · cases h
    rename_i hlast
    obtain ⟨m, hm, rfl⟩ := Option.map_eq_some_iff.mp h
    obtain ⟨habove, hleast⟩ := ih hm
    have hsucc : (l.id + 1).toNat = l.id.toNat + 1 := by
      have hne : l.id.toNat ≠ 18446744073709551615 := fun heq => hlast (UInt64.toNat_inj.mp heq)
      have hlt := l.id.toNat_lt
      have hone : (1 : UInt64).toNat = 1 := rfl
      rw [UInt64.toNat_add, hone]
      omega
    constructor
    · intro x hx
      rcases List.mem_cons.mp hx with rfl | hx
      · split
        · omega
        · rename_i hle
          rw [UInt64.lt_iff_toNat_lt, hsucc] at hle
          omega
      · have hx' := habove x hx
        split
        · rename_i hle
          rw [UInt64.lt_iff_toNat_lt] at hle
          omega
        · exact hx'
    · intro k hk
      have hl := hk l (by simp)
      have htail := hleast k fun x hx => hk x (by simp [hx])
      split
      · omega
      · exact htail

theorem lastId_mem_of_nextId?_eq_none (h : nextId? links = none) : ∃ l ∈ links, l.id = lastId := by
  induction links with
  | nil => cases h
  | cons l links ih =>
    simp only [nextId?] at h
    split at h
    · rename_i hlast
      exact ⟨l, by simp, hlast⟩
    · obtain ⟨x, hx, hlast⟩ := ih (Option.map_eq_none_iff.mp h)
      exact ⟨x, List.mem_cons_of_mem l hx, hlast⟩

theorem nextId?_eq_none_iff : nextId? links = none ↔ ∃ l ∈ links, l.id = lastId := by
  refine ⟨lastId_mem_of_nextId?_eq_none, ?_⟩
  rintro ⟨l, hl, hlast⟩
  cases hid : nextId? links with
  | none => rfl
  | some n =>
    have habove := (nextId?_spec hid).1 l hl
    have hlt := n.toNat_lt
    have hvalue : lastId.toNat = 2 ^ 64 - 1 := rfl
    rw [hlast, hvalue] at habove
    omega

/-- There is an id for one more link as long as the links are fewer than the ids. -/
theorem nextId?_ne_none (hids : links.map (·.id.toNat) = List.range links.length)
    (h : links.length < UInt64.size) : nextId? links ≠ none := by
  intro hnone
  obtain ⟨l, hl, hlast⟩ := lastId_mem_of_nextId?_eq_none hnone
  have hmem : l.id.toNat ∈ List.range links.length := by
    rw [← hids]
    exact List.mem_map_of_mem hl
  have hlt := List.mem_range.mp hmem
  have hvalue : lastId.toNat = UInt64.size - 1 := rfl
  rw [hlast, hvalue] at hlt
  omega

theorem toNat_nextId? (hids : links.map (·.id.toNat) = List.range links.length)
    (h : nextId? links = some n) : n.toNat = links.length := by
  obtain ⟨habove, hleast⟩ := nextId?_spec h
  have hmem : ∀ i, i < links.length ↔ ∃ l ∈ links, l.id.toNat = i := by
    intro i
    rw [← List.mem_range, ← hids, List.mem_map]
  have hle : n.toNat ≤ links.length := hleast _ fun l hl => (hmem _).mpr ⟨l, hl, rfl⟩
  rcases Nat.lt_or_eq_of_le hle with hlt | heq
  · obtain ⟨l, hl, hid⟩ := (hmem n.toNat).mp hlt
    exact absurd hid (Nat.ne_of_lt (habove l hl))
  · exact heq

end Link
end LinkShelf
