import LinkShelf.Link.Basic

/-! Tags of a new link: of those with one lowercase the first is kept, so that none is lost but for its
spelling, and none is made up. -/
namespace LinkShelf
namespace NewLink

variable {seen ts : List String} {t : String}

theorem mem_of_mem_distinctTags (h : t ∈ distinctTags seen ts) : t ∈ ts := by
  induction ts generalizing seen with
  | nil => simp [distinctTags] at h
  | cons x ts ih =>
    simp only [distinctTags] at h
    split at h
    · exact List.mem_cons_of_mem x (ih h)
    · rcases List.mem_cons.mp h with rfl | h
      · exact List.mem_cons_self
      · exact List.mem_cons_of_mem x (ih h)

theorem lower_mem_distinctTags (h : t ∈ ts) :
    Text.lower t ∈ seen ∨ ∃ u ∈ distinctTags seen ts, Text.lower u = Text.lower t := by
  induction ts generalizing seen with
  | nil => cases h
  | cons x ts ih =>
    simp only [distinctTags]
    rcases List.mem_cons.mp h with rfl | h
    · split
      · exact .inl ‹_›
      · exact .inr ⟨t, List.mem_cons_self, rfl⟩
    · split
      · exact ih h
      · rcases @ih (Text.lower x :: seen) h with hseen | ⟨u, hu, hsame⟩
        · rcases List.mem_cons.mp hseen with hx | hseen
          · exact .inr ⟨x, List.mem_cons_self, hx.symm⟩
          · exact .inl hseen
        · exact .inr ⟨u, List.mem_cons_of_mem x hu, hsame⟩

theorem exists_mem_distinctTags (h : t ∈ ts) :
    ∃ u ∈ distinctTags [] ts, Text.lower u = Text.lower t :=
  (lower_mem_distinctTags h).resolve_left List.not_mem_nil

theorem lower_not_mem_of_mem_distinctTags (h : t ∈ distinctTags seen ts) :
    Text.lower t ∉ seen := by
  induction ts generalizing seen with
  | nil => simp [distinctTags] at h
  | cons x ts ih =>
    simp only [distinctTags] at h
    split at h
    · exact ih h
    · rename_i hnew
      rcases List.mem_cons.mp h with rfl | h
      · exact hnew
      · exact fun hmem => ih h (List.mem_cons_of_mem _ hmem)

theorem nodup_map_lower_distinctTags (seen ts : List String) :
    ((distinctTags seen ts).map Text.lower).Nodup := by
  induction ts generalizing seen with
  | nil => simp [distinctTags]
  | cons x ts ih =>
    simp only [distinctTags]
    split
    · exact ih seen
    · rw [List.map_cons, List.nodup_cons]
      refine ⟨fun hmem => ?_, ih _⟩
      obtain ⟨u, hu, hsame⟩ := List.mem_map.mp hmem
      refine lower_not_mem_of_mem_distinctTags hu ?_
      rw [hsame]
      exact List.mem_cons_self

/-- The tags in front of which no tag has the same lowercase, in order. -/
def firstSpellings (ts : List String) : List String :=
  (ts.zipIdx.filter fun (t, i) => Text.lower t ∉ (ts.take i).map Text.lower).map (·.1)

theorem distinctTags_behind {front : List String}
    (hseen : ∀ key, key ∈ seen ↔ key ∈ front.map Text.lower) :
    distinctTags seen ts = ((ts.zipIdx front.length).filter fun (t, i) =>
      Text.lower t ∉ ((front ++ ts).take i).map Text.lower).map (·.1) := by
  induction ts generalizing seen front with
  | nil => rfl
  | cons x ts ih =>
    have hfront : (front ++ x :: ts).take front.length = front := List.take_left
    have hnext : front ++ x :: ts = (front ++ [x]) ++ ts := by simp
    have hlength : front.length + 1 = (front ++ [x]).length := by simp
    rw [distinctTags, List.zipIdx_cons, List.filter_cons]
    simp only [hfront, ← hseen (Text.lower x)]
    rw [hnext, hlength]
    by_cases hx : Text.lower x ∈ seen
    · have hmore : ∀ key, key ∈ seen ↔ key ∈ (front ++ [x]).map Text.lower := by
        intro key
        rw [List.map_append, List.mem_append, ← hseen key, List.map_singleton,
          List.mem_singleton]
        exact ⟨.inl, fun h => h.elim id fun hkey => hkey ▸ hx⟩
      rw [if_pos hx, ih hmore]
      simp [hx]
    · have hmore : ∀ key, key ∈ Text.lower x :: seen ↔ key ∈ (front ++ [x]).map Text.lower := by
        intro key
        rw [List.map_append, List.mem_append, ← hseen key, List.map_singleton,
          List.mem_singleton, List.mem_cons, or_comm]
      rw [if_neg hx, ih hmore]
      simp [hx]

/-- The scan with what was seen keeps the first spellings. -/
theorem distinctTags_eq (ts : List String) : distinctTags [] ts = firstSpellings ts :=
  @distinctTags_behind [] ts [] (by simp)

end NewLink
end LinkShelf
