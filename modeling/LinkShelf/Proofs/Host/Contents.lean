import LinkShelf.Proofs.Host.Machine

/-! What the operations on a machine leave of its files: making directories changes none, and writing
a file changes the one at the place of its path. -/
namespace LinkShelf
namespace Machine

def contentAt? (d : Machine) (p : Place) : Option Bytes :=
  match d.lookUp p with
  | some (.file bs) => some bs
  | _ => none

variable {d : Machine} {p q : Place}

theorem contentAt?_eq_some {bs : Bytes} :
    d.contentAt? p = some bs ↔ d.lookUp p = some (.file bs) := by
  unfold contentAt?
  split <;> simp_all

theorem contentAt?_of_none (h : d.lookUp p = none) : d.contentAt? p = none := by
  simp only [contentAt?, h]

theorem contentAt?_set_of_ne (hq : q ≠ p) (n : Option Node) :
    (d.set p n).contentAt? q = d.contentAt? q := by
  simp only [contentAt?, lookUp_set_of_ne hq]

theorem contentAt?_set_self (hp : p ≠ []) (bs : Bytes) :
    (d.set p (some (.file bs))).contentAt? p = some bs :=
  contentAt?_eq_some.mpr (lookUp_set_self hp _)

theorem contentAt?_set_directory (hp : d.lookUp p = none) (q : Place) :
    (d.set p (some .directory)).contentAt? q = d.contentAt? q := by
  by_cases hq : q = p
  · subst hq
    have hroot : q ≠ [] := ne_nil_of_lookUp (d := d) (by simp [hp])
    simp only [contentAt?, lookUp_set_self hroot, hp]
  · exact contentAt?_set_of_ne hq _

theorem contentAt?_makeOnWay (d : Machine) (here : Place) (names : List String) (q : Place) :
    (d.makeOnWay here names).2.contentAt? q = d.contentAt? q := by
  -- one case for each way that a name can lead on
  fun_induction makeOnWay d here names
  case case1 | case4 | case6 => rfl
  case case2 ih => exact ih
  case case3 ih => exact ih
  case case5 ih => exact ih
  case case7 hnone ih => rw [ih, contentAt?_set_directory hnone]

theorem contentAt?_makeDirectories (d : Machine) (path : String) (q : Place) :
    (d.makeDirectories path).2.contentAt? q = d.contentAt? q := by
  unfold makeDirectories
  split
  · rfl
  split
  · rfl
  · exact contentAt?_makeOnWay d [] (names path) q

/-- Nothing was made or changed but the file that a path leads to. -/
structure TouchesOnly (d e : Machine) (path : String) : Prop where
  contents : ∀ q, d.locate path ≠ .ok q → e.contentAt? q = d.contentAt? q
  directories : e.KeepsDirectories d

namespace TouchesOnly

variable {e e' : Machine} {path : String}

theorem refl (d : Machine) (path : String) : d.TouchesOnly d path :=
  ⟨fun _ _ => rfl, fun _ hp => hp⟩

theorem trans (h : d.TouchesOnly e path) (h' : e.TouchesOnly e' path) :
    d.TouchesOnly e' path where
  contents q hq := by
    -- the path leads nowhere else than before
    have hlater : e.locate path ≠ .ok q := fun heq => hq (h.directories.locate heq)
    rw [h'.contents q hlater, h.contents q hq]
  directories p hp := h.directories p (h'.directories p hp)

theorem set_file {p : Place} (h : d.locateFile path = .ok p) (bs : Bytes) :
    d.TouchesOnly (d.set p (some (.file bs))) path := by
  obtain ⟨hlocate, hnode⟩ := locate_of_locateFile h
  refine ⟨fun q hq => contentAt?_set_of_ne ?_ _, keepsDirectories_of_set hnode (by simp)⟩
  rintro rfl
  exact hq hlocate

theorem writeFile (d : Machine) (path : String) (bs : Bytes) :
    d.TouchesOnly (d.writeFile path bs).2 path := by
  cases hfree : d.locateFile path with
  | error err =>
    simp only [Machine.writeFile, hfree]
    exact refl d path
  | ok p =>
    rw [writeFile_of_locateFile hfree]
    exact set_file hfree bs

end TouchesOnly

end Machine
end LinkShelf
