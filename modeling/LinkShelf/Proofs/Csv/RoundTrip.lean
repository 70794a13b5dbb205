import LinkShelf.Csv.Writer
import LinkShelf.Proofs.Csv.Grammar

/-! Reading what was written. A written field is one of the grammar and stands for itself, so a
written record is, and so are all records of a file. -/
namespace LinkShelf
namespace Csv

theorem isBare_of_not_needsQuotes {f : Bytes} (h : needsQuotes f = false) : IsBare f := by
  have hplain : ∀ b ∈ f, (b ≠ comma ∧ b ≠ quote) ∧ endsRecord b = false := by
    simpa [needsQuotes] using h
  exact ⟨fun hb => (hplain quote (List.mem_of_mem_head? hb)).1.2 rfl,
    fun b hb => ⟨(hplain b hb).1.1, (hplain b hb).2⟩⟩

theorem fieldText_writeField (f : Bytes) : FieldText (writeField f) f := by
  by_cases hneeds : needsQuotes f = true
  · have hquoted := FieldText.intro (.quotes f) isBare_nil
    rw [List.append_nil, List.append_nil] at hquoted
    rw [writeField, if_pos hneeds]
    exact hquoted
  · have hbare := isBare_of_not_needsQuotes (Bool.not_eq_true _ ▸ hneeds)
    rw [writeField, if_neg hneeds]
    exact .intro .none hbare

theorem exists_recordText {ts : Bytes} {fs : List Bytes} (h : FieldsText ts fs) (hne : ts ≠ [])
    (g : Bytes) (gs : List Bytes) :
    ∃ t, ts ++ writeRecord (g :: gs) = t ++ [lineFeed] ∧ RecordText t (fs ++ g :: gs) := by
  induction gs generalizing ts fs g with
  | nil =>
    exact ⟨ts ++ writeField g, by simp [writeRecord],
      .intro h (fieldText_writeField g) (by simp [hne])⟩
  | cons g' gs ih =>
    obtain ⟨t, htext, hrecord⟩ := ih (.snoc h (fieldText_writeField g)) (by simp) g'
    exact ⟨t, by simpa [writeRecord] using htext, by simpa using hrecord⟩

theorem recordText_writeRecord {r : List Bytes} (h : 2 ≤ r.length) :
    ∃ t, writeRecord r = t ++ [lineFeed] ∧ RecordText t r := by
  match r, h with
  | f :: g :: fs, _ =>
    obtain ⟨t, htext, hrecord⟩ :=
      exists_recordText (.snoc .nil (fieldText_writeField f)) (by simp) g fs
    exact ⟨t, by simpa [writeRecord] using htext, by simpa using hrecord⟩

theorem tableText_write {rs : List (List Bytes)} (h : ∀ r ∈ rs, 2 ≤ r.length) :
    TableText (write rs) rs := by
  induction rs with
  | nil => exact .nil
  | cons r rs ih =>
    obtain ⟨t, htext, hrecord⟩ := recordText_writeRecord (h r (by simp))
    have hrest : write (r :: rs) = t ++ lineFeed :: write rs := by
      rw [write, List.flatMap_cons, htext, List.append_assoc]
      rfl
    rw [hrest]
    exact .record hrecord (by decide) (ih fun r hr => h r (by simp [hr]))

/-- Records of two or more fields are read back as they were written. -/
theorem fields_records_write {rs : List (List Bytes)} (h : ∀ r ∈ rs, 2 ≤ r.length)
    (hmark : (write rs).head? ≠ some 0xEF) :
    (records (write rs)).map Record.fields = rs := by
  refine fields_records_eq_iff.mpr (.plain ?_ (tableText_write h))
  rintro ⟨bs, hbs⟩
  rw [← hbs] at hmark
  exact hmark rfl

end Csv
end LinkShelf
