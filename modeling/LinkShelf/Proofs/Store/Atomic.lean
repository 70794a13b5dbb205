import LinkShelf.Proofs.Host.Names
import LinkShelf.Proofs.Store.LinkFile

/-! Saving links leaves no trace when it fails. When it succeeds the draft is gone, and the file holds
all links. -/
namespace LinkShelf
namespace LinkFile

variable {d e : Machine} {path : String} {links : List Link}

/-- What saving does: it cannot write the draft, or has nowhere to move it, or the table comes to
where the path leads. -/
theorem save_cases (d : Machine) (path : String) (links : List Link) :
    (∃ err, (∀ p, d.locateFile (draftPath path) ≠ .ok p) ∧
      (save (m := StateM Machine) path links).run d = (.error err, d)) ∨
    (∃ err p, d.locateFile (draftPath path) = .ok p ∧ (∀ q, d.locateFile path ≠ .ok q) ∧
      (save (m := StateM Machine) path links).run d =
        (.error err, d.set p (some (.file (Table.write links))))) ∨
    (∃ p q, d.locateFile (draftPath path) = .ok p ∧ d.locateFile path = .ok q ∧
      (save (m := StateM Machine) path links).run d =
        (.ok (), (d.set p none).set q (some (.file (Table.write links))))) := by
  rw [run_save]
  cases hdraft : d.locateFile (draftPath path) with
  | error err => exact .inl ⟨err, by simp, by simp only [Machine.writeFile, hdraft]⟩
  | ok p =>
    obtain ⟨hlocate, hnode⟩ := Machine.locate_of_locateFile hdraft
    have hsource := (Machine.keepsDirectories_set hnode
      (some (.file (Table.write links)))).locate hlocate
    have hfile := Machine.lookUp_set_self (d := d) (Machine.ne_nil_of_lookUp hnode)
      (some (.file (Table.write links)))
    rw [Machine.writeFile_of_locateFile hdraft]
    cases htarget : (d.set p (some (.file (Table.write links)))).locateFile path with
    | ok q =>
      have hpath := Machine.locateFile_of_set htarget hnode (by simp)
      have hmove := Machine.rename_of_locateFile hsource hfile htarget
      rw [Machine.set_set_self] at hmove
      exact .inr (.inr ⟨p, q, rfl, hpath, hmove⟩)
    | error err =>
      obtain ⟨err, hmove⟩ := Machine.rename_of_locateFile_error hsource hfile htarget
      refine .inr (.inl ⟨err, p, rfl, fun q hq => ?_, hmove⟩)
      have hpath := Machine.locateFile_set (n := some (.file (Table.write links))) hq hnode (by simp)
      rw [htarget] at hpath
      cases hpath

/-- A save that fails leaves the file as it was, and makes none. -/
theorem readFile_of_save_error {err : FileError}
    (h : (save (m := StateM Machine) path links).run d = (.error err, e)) (bs : Bytes) :
    e.readFile path = .ok bs ↔ d.readFile path = .ok bs := by
  rcases save_cases d path links with ⟨_, -, hrun⟩ | ⟨_, p, hdraft, hpath, hrun⟩ | ⟨_, _, -, -, hrun⟩
  · rw [hrun] at h
    cases h
    rfl
  · rw [hrun] at h
    cases h
    -- nothing can be read where nothing can be put
    have hnode := (Machine.locate_of_locateFile hdraft).2
    constructor
    · intro hread
      obtain ⟨q, hq⟩ := Machine.locateFile_of_readFile hread
      exact absurd (Machine.locateFile_of_set hq hnode (by simp)) (hpath q)
    · intro hread
      obtain ⟨q, hq⟩ := Machine.locateFile_of_readFile hread
      exact absurd hq (hpath q)
  · rw [hrun] at h
    cases h

theorem status_draft_of_save
    (h : (save (m := StateM Machine) path links).run d = (.ok (), e)) :
    e.status (draftPath path) = .error .notFound := by
  rcases save_cases d path links with ⟨_, -, hrun⟩ | ⟨_, _, -, -, hrun⟩ | ⟨p, q, hdraft, hpath, hrun⟩
  · rw [hrun] at h
    cases h
  · rw [hrun] at h
    cases h
  · rw [hrun] at h
    cases h
    obtain ⟨hp, hfree⟩ := Machine.locate_of_locateFile hdraft
    obtain ⟨hq, hnode⟩ := Machine.locate_of_locateFile hpath
    have hne : p ≠ q := Machine.locate_append_ne (by decide) (by decide) hq hp
    have hroot := Machine.ne_nil_of_lookUp hfree
    have hgone := Machine.keepsDirectories_set hfree none
    have hfree' : (d.set p none).lookUp q ≠ some .directory := by
      rwa [Machine.lookUp_set_of_ne hne.symm]
    have hfilled := Machine.keepsDirectories_set hfree' (some (.file (Table.write links)))
    refine Machine.status_of_lookUp_none (hfilled.locate (hgone.locate hp)) ?_
    rw [Machine.lookUp_set_of_ne hne, Machine.lookUp_set_self hroot]

end LinkFile
end LinkShelf
