import LinkShelf.Proofs.Csv.RoundTrip
import LinkShelf.Proofs.Link.Told
import LinkShelf.Proofs.Text.Items
import LinkShelf.Proofs.Text.Utf8
import LinkShelf.Proofs.Time.RoundTrip
import LinkShelf.Store.Table

/-! The table of links is read back as it was written: the records of the file are those of the
links, and each field of a record holds its part of the link. -/
namespace LinkShelf

/-- What the fields of a record can hold of a link: tags that are items, and a year of four
digits. -/
structure Link.Recordable (l : Link) : Prop where
  isItem : ∀ t ∈ l.tags, Text.IsItem t
  zero_le_year : 0 ≤ l.publishedAt.year
  year_le : l.publishedAt.year ≤ 9999

/-- A link that comes back from its record unchanged. -/
structure Link.Durable (l : Link) : Prop extends l.Recordable where
  isInstant : l.publishedAt.IsInstant

namespace Table

@[simp] theorem mapError_ok {ε ε' α : Type} (f : ε → ε') (a : α) :
    (Except.ok a : Except ε α).mapError f = .ok a := rfl

theorem decodeFields_encode (index : Nat) (ss : List String) :
    decodeFields index (ss.map Utf8.encodeString) = .ok ss := by
  induction ss generalizing index with
  | nil => rfl
  | cons s ss ih =>
    simp only [List.map_cons, decodeFields, Utf8.encodeString, Utf8.decode_encode,
      String.ofList_toList]
    rw [ih]
    rfl

theorem readLink_fields_eq (l : Link) :
    readLink (fields l) =
      ((Time.readStrict l.publishedAt.textOffset).mapError .time).map fun t =>
        { l with tags := Text.items (Text.joinItems l.tags), publishedAt := t } := by
  simp only [readLink, fields, column, bind, Except.bind, List.getElem?_cons_zero,
    List.getElem?_cons_succ, Collection.ofNames_items_joinItems, mapError_ok,
    Text.readUInt64_toString]
  cases (Time.readStrict l.publishedAt.textOffset).mapError LoadError.time <;> rfl

theorem readLink_fields {l : Link} (h : l.Recordable) : readLink (fields l) = .ok l.told := by
  rw [readLink_fields_eq, Time.Moment.readStrict_textOffset h.zero_le_year h.year_le,
    Text.items_joinItems h.isItem]
  rfl

def encoded (l : Link) : List Bytes := (fields l).map Utf8.encodeString

theorem length_encoded (l : Link) : (encoded l).length = columns.length := by
  simp [encoded, fields, columns]

theorem readRecords_encoded (links : List Link) (previous : Csv.Position) {rs : List Csv.Record}
    (hrs : rs.map Csv.Record.fields = links.map encoded) :
    readRecords columns.length previous rs = links.mapM fun l => readLink (fields l) := by
  induction rs generalizing links previous with
  | nil =>
    have hlinks : links = [] := by simpa using hrs.symm
    rw [hlinks]
    rfl
  | cons r rs ih =>
    cases links with
    | nil => simp at hrs
    | cons l links =>
      obtain ⟨hr, hrest⟩ : r.fields = encoded l ∧ rs.map Csv.Record.fields = links.map encoded := by
        simpa using hrs
      have hlength : r.fields.length = columns.length := by rw [hr, length_encoded]
      have hfields : decodeFields 0 r.fields = .ok (fields l) := by
        rw [hr]
        exact decodeFields_encode 0 (fields l)
      have htail := fun next => ih links next hrest
      simp only [readRecords, hlength, hfields, htail, ne_eq, not_true_eq_false, if_false,
        mapError_ok, List.mapM_cons, bind, Except.bind]

theorem write_eq (links : List Link) :
    write links = Csv.write (columns.map Utf8.encodeString :: links.map encoded) := by
  rw [write, List.map_cons, List.map_map]
  rfl

def headerLine : String := "id,user_id,url,title,tags,collections,published_at\n"

theorem write_nil : write [] = Utf8.encodeString headerLine := by decide +kernel

theorem head?_write (links : List Link) : (write links).head? ≠ some 0xEF := by
  have hfirst : (Csv.writeRecord (columns.map Utf8.encodeString)).head? = some 0x69 := by decide
  have hwrite : Csv.write (columns.map Utf8.encodeString :: links.map encoded) =
      Csv.writeRecord (columns.map Utf8.encodeString) ++ Csv.write (links.map encoded) := rfl
  rw [write_eq, hwrite, List.head?_append, hfirst, Option.some_or]
  decide

theorem read_write_eq (links : List Link) :
    read (write links) = links.mapM fun l => readLink (fields l) := by
  have hwide : ∀ r ∈ columns.map Utf8.encodeString :: links.map encoded, 2 ≤ r.length := by
    intro r hr
    rcases List.mem_cons.mp hr with rfl | hr
    · decide
    · obtain ⟨l, -, rfl⟩ := List.mem_map.mp hr
      rw [length_encoded]
      decide
  have hrecords := Csv.fields_records_write hwide (by rw [← write_eq]; exact head?_write links)
  rw [← write_eq] at hrecords
  cases hread : Csv.records (write links) with
  | nil => simp [hread] at hrecords
  | cons header rs =>
    obtain ⟨hheader, hrs⟩ : header.fields = columns.map Utf8.encodeString ∧
        rs.map Csv.Record.fields = links.map encoded := by
      simpa [hread] using hrecords
    have hwidth : header.fields.length = columns.length := by rw [hheader, List.length_map]
    simp only [read, hread, hwidth]
    exact readRecords_encoded links header.position hrs

theorem read_write_told {links : List Link} (h : ∀ l ∈ links, l.Recordable) :
    read (write links) = .ok (links.map Link.told) := by
  rw [read_write_eq]
  induction links with
  | nil => rfl
  | cons l links ih =>
    rw [List.mapM_cons, readLink_fields (h l (by simp)), ih fun x hx => h x (by simp [hx])]
    rfl

theorem read_write {links : List Link} (h : ∀ l ∈ links, l.Durable) :
    read (write links) = .ok links := by
  rw [read_write_told fun l hl => (h l hl).toRecordable,
    Link.map_told_eq_iff.mpr fun l hl => (h l hl).isInstant]

end Table
end LinkShelf
