import LinkShelf.Proofs.Store.LinkFile
import LinkShelf.Proofs.Time.Strict
import Mathlib.Data.List.Forall2
import Mathlib.Data.Set.List

/-! Which files of links can be loaded, and what is in them then. The rows below the first are told
one by one, without leaving one out or adding one, and one that cannot be told refuses the file. -/
namespace LinkShelf
namespace Table

/-- The texts of a row from which a link can be made: seven or more, and among them a number, names
of collections and a time. -/
structure Readable (texts : List String) : Prop where
  seven_le : 7 ≤ texts.length
  number : ∀ s ∈ texts[0]?, ∃ n : UInt64, Text.NumberText s.toList n.toNat
  collections : ∀ s ∈ texts[5]?, ∀ x ∈ Text.items s, ∃ c : Collection, c.name = x
  time : ∀ s ∈ texts[6]?, ∃ t, Time.StrictText s.toList t

/-- The link that the texts of a row tell. Columns behind the seventh do not matter. -/
inductive Tells : List String → Link → Prop
  | intro {number userId url title tags names time : String} {id : UInt64}
    {collections : List Collection} {publishedAt : Time.Instant} (more : List String)
    (hnumber : Text.NumberText number.toList id.toNat)
    (hnames : Text.items names = collections.map Collection.name)
    (htime : Time.StrictText time.toList publishedAt) :
    Tells (number :: userId :: url :: title :: tags :: names :: time :: more)
      { id, userId, url, title, tags := Text.items tags, collections, publishedAt }

/-- The row is of the given width and consists of texts with a property. -/
def IsRow (width : Nat) (P : List String → Prop) (row : List Bytes) : Prop :=
  row.length = width ∧ ∃ texts, row = texts.map Utf8.encodeString ∧ P texts

theorem decodeFields_eq_ok_iff {index : Nat} {fs : List Bytes} {ss : List String} :
    decodeFields index fs = .ok ss ↔ fs = ss.map Utf8.encodeString := by
  constructor
  · intro h
    induction fs generalizing index ss with
    | nil =>
      obtain rfl : [] = ss := Except.ok.inj h
      rfl
    | cons f fs ih =>
      simp only [decodeFields] at h
      split at h
      · rename_i cs hcs
        obtain ⟨ts, hts, rfl⟩ := Outcome.map_eq_ok.mp h
        rw [List.map_cons, Utf8.encodeString, String.toList_ofList, ← ih hts,
          ← Utf8.decode_eq_ok_iff.mp hcs]
      · cases h
  · rintro rfl
    exact decodeFields_encode index ss

theorem column_eq_ok_iff {texts : List String} {index : Nat} {s : String} :
    column texts index = .ok s ↔ texts[index]? = some s := by
  unfold column
  split
  · rename_i t ht
    rw [ht, Except.ok.injEq, Option.some.injEq]
  · rename_i ht
    rw [ht]
    exact ⟨nofun, nofun⟩

theorem exists_columns {texts : List String} (h : 7 ≤ texts.length) :
    ∃ number user url title tags collections time more,
      texts = number :: user :: url :: title :: tags :: collections :: time :: more := by
  match texts, h with
  | number :: user :: url :: title :: tags :: collections :: time :: more, _ =>
    exact ⟨number, user, url, title, tags, collections, time, more, rfl⟩

theorem readLink_eq_ok_iff {texts : List String} {l : Link} :
    readLink texts = .ok l ↔ Tells texts l := by
  simp only [readLink, Outcome.bind_eq_ok, Outcome.mapError_eq_ok, column_eq_ok_iff,
    Collection.ofNames_eq_ok_iff, Text.readUInt64_eq_ok_iff, Time.readStrict_eq_ok_iff, pure,
    Except.pure, Except.ok.injEq]
  constructor
  · rintro ⟨names, hnames, collections, hcollections, number, hnumber, id, hid, userId, huser, url,
      hurl, title, htitle, tags, htags, time, htime, publishedAt, ht, rfl⟩
    have hseven : 7 ≤ texts.length := (List.getElem?_eq_some_iff.mp htime).1
    obtain ⟨_, _, _, _, _, _, _, more, rfl⟩ := exists_columns hseven
    cases hnames
    cases hnumber
    cases huser
    cases hurl
    cases htitle
    cases htags
    cases htime
    exact .intro more hid hcollections ht
  · rintro ⟨more, hnumber, hnames, htime⟩
    exact ⟨_, rfl, _, hnames, _, rfl, _, hnumber, _, rfl, _, rfl, _, rfl, _, rfl, _, rfl, _, htime,
      rfl⟩

/-- A link can be made from texts that are readable, and from no others. -/
theorem exists_tells_iff {texts : List String} : (∃ l, Tells texts l) ↔ Readable texts := by
  constructor
  · rintro ⟨l, more, hnumber, hnames, htime⟩
    refine ⟨by simp, ?_, ?_, ?_⟩
    · rintro s ⟨⟩
      exact ⟨_, hnumber⟩
    · rintro s ⟨⟩ x hx
      rw [hnames] at hx
      obtain ⟨c, -, hc⟩ := List.mem_map.mp hx
      exact ⟨c, hc⟩
    · rintro s ⟨⟩
      exact ⟨_, htime⟩
  · rintro ⟨hseven, hnumber, hcollections, htime⟩
    obtain ⟨_, _, _, _, _, names, _, more, rfl⟩ := exists_columns hseven
    obtain ⟨id, hid⟩ := hnumber _ rfl
    obtain ⟨publishedAt, htime⟩ := htime _ rfl
    obtain ⟨collections, hnames⟩ : Text.items names ∈ Set.range (List.map Collection.name) := by
      rw [Set.range_list_map]
      exact hcollections names rfl
    exact ⟨_, .intro more hid hnames.symm htime⟩

/-- The records are read row by row, and none of them is left out. -/
theorem readRecords_eq_ok_iff {width : Nat} {previous : Csv.Position} {rs : List Csv.Record}
    {links : List Link} : readRecords width previous rs = .ok links ↔
      List.Forall₂ (fun row l => IsRow width (Tells · l) row) (rs.map Csv.Record.fields) links := by
  induction rs generalizing previous links with
  | nil =>
    rw [List.map_nil, List.forall₂_nil_left_iff]
    exact ⟨fun h => (Except.ok.inj h).symm, fun h => congrArg Except.ok h.symm⟩
  | cons r rs ih =>
    rw [List.map_cons, List.forall₂_cons_left_iff]
    simp only [readRecords, IsRow]
    by_cases hwidth : r.fields.length = width
    · simp only [hwidth, ne_eq, not_true_eq_false, if_false, Outcome.bind_eq_ok,
        Outcome.mapError_eq_ok, readLink_eq_ok_iff, ih, pure, Except.pure, Except.ok.injEq,
        decodeFields_eq_ok_iff, true_and]
      constructor
      · rintro ⟨texts, htexts, link, hlink, rest, hrest, rfl⟩
        exact ⟨link, rest, ⟨texts, htexts, hlink⟩, hrest, rfl⟩
      · rintro ⟨link, rest, ⟨texts, htexts, hlink⟩, hrest, rfl⟩
        exact ⟨texts, htexts, link, hlink, rest, hrest, rfl⟩
    · simp only [ne_eq, hwidth, not_false_eq_true, if_true, false_and, exists_false, iff_false]
      intro h
      cases h

theorem exists_forall₂_iff {α β : Type} {R : α → β → Prop} {xs : List α} :
    (∃ ys, List.Forall₂ R xs ys) ↔ ∀ x ∈ xs, ∃ y, R x y := by
  induction xs with
  | nil => simp
  | cons x xs ih =>
    rw [List.forall_mem_cons, ← ih]
    constructor
    · rintro ⟨_, hys⟩
      obtain ⟨y, ys, hx, hxs, -⟩ := List.forall₂_cons_left_iff.mp hys
      exact ⟨⟨y, hx⟩, ys, hxs⟩
    · rintro ⟨⟨y, hx⟩, ys, hxs⟩
      exact ⟨y :: ys, .cons hx hxs⟩

def width (rows : List (List Bytes)) : Nat := (rows.headD []).length

section

variable {bs : Bytes} {rows : List (List Bytes)} (h : Csv.FileText bs rows)
include h

/-- A table is read exactly if the rows below the first tell links, and these are the links. -/
theorem read_eq_ok_iff {links : List Link} : read bs = .ok links ↔
    List.Forall₂ (fun row l => IsRow (width rows) (Tells · l) row) rows.tail links := by
  have hrows := Csv.fields_records_eq_iff.mpr h
  unfold read
  cases hrecords : Csv.records bs with
  | nil =>
    obtain rfl : [] = rows := by simpa [hrecords] using hrows
    rw [List.tail_nil, List.forall₂_nil_left_iff]
    exact ⟨fun h => (Except.ok.inj h).symm, fun h => congrArg Except.ok h.symm⟩
  | cons header rs =>
    obtain rfl : header.fields :: rs.map Csv.Record.fields = rows := by
      simpa [hrecords] using hrows
    exact readRecords_eq_ok_iff

theorem exists_read_iff :
    (∃ links, read bs = .ok links) ↔ ∀ row ∈ rows.tail, IsRow (width rows) Readable row := by
  simp only [read_eq_ok_iff h, exists_forall₂_iff, IsRow, ← exists_tells_iff]
  refine forall₂_congr fun row _ => ?_
  constructor
  · rintro ⟨l, hwidth, texts, htexts, hl⟩
    exact ⟨hwidth, texts, htexts, l, hl⟩
  · rintro ⟨hwidth, texts, htexts, l, hl⟩
    exact ⟨l, hwidth, texts, htexts, hl⟩

end

/-- The tags of a row are items, and its time is one that a clock shows. -/
theorem tidy_of_read {bs : Bytes} {links : List Link} (h : read bs = .ok links) :
    ∀ l ∈ links, (∀ t ∈ l.tags, Text.IsItem t) ∧ l.publishedAt.IsInstant := by
  have hrows := (read_eq_ok_iff (Csv.fields_records_eq_iff.mp rfl)).mp h
  intro l hl
  obtain ⟨row, -, texts, -, htold⟩ := exists_forall₂_iff.mp ⟨_, hrows.flip⟩ l hl
  obtain ⟨_, -, -, -⟩ := htold
  exact ⟨fun t ht => Text.isItem_of_mem_items ht, Time.Instant.isInstant _⟩

end Table

namespace LinkFile

/-- Loading changes no file that is there. It succeeds exactly if every row below the first can be
read, and then there is one link for each of them, in their order. Where no file is, one is made
that holds the names of the columns. -/
theorem load_tells_rows (d : Machine) (path : String) :
    (∀ bs, d.readFile path = .ok bs → ∃ rows, (∀ rs, Csv.FileText bs rs ↔ rs = rows) ∧
      ∃ answer, (load (m := StateM Machine) path).run d = (answer, d) ∧
        ((∃ f, answer = .ok f) ↔
          ∀ row ∈ rows.tail, Table.IsRow (Table.width rows) Table.Readable row) ∧
        ∀ f, answer = .ok f ↔ ∃ links, f = { path, shelf := { links } } ∧
          List.Forall₂ (fun row l => Table.IsRow (Table.width rows) (Table.Tells · l) row)
            rows.tail links) ∧
    ∀ p, d.locate path = .ok p → d.lookUp p = none →
      (load (m := StateM Machine) path).run d =
        (.ok { path }, d.set p (some (.file (Utf8.encodeString Table.headerLine)))) := by
  refine ⟨fun bs hread => ?_, fun p hlocate hnone => ?_⟩
  · have hrows : ∀ rs, Csv.FileText bs rs ↔ rs = (Csv.records bs).map Csv.Record.fields :=
      fun rs => Csv.fields_records_eq_iff.symm.trans eq_comm
    have hfile := (hrows _).mpr rfl
    refine ⟨_, hrows, _, load_eq_of_readFile hread, ?_, fun f => ?_⟩
    · rw [← Table.exists_read_iff hfile]
      simp only [Outcome.map_eq_ok]
      constructor
      · rintro ⟨_, links, hlinks, -⟩
        exact ⟨links, hlinks⟩
      · rintro ⟨links, hlinks⟩
        exact ⟨_, links, hlinks, rfl⟩
    · simp only [Outcome.map_eq_ok, Table.read_eq_ok_iff hfile]
      constructor
      · rintro ⟨links, hlinks, rfl⟩
        exact ⟨links, rfl, hlinks⟩
      · rintro ⟨links, rfl, hlinks⟩
        exact ⟨links, hlinks, rfl⟩
  · rw [load_of_none hlocate hnone, Table.write_nil]

/-- A table with a byte order mark, an empty line, a column more than needed and a quote that is not
closed. -/
def foreignTable : Bytes := Utf8.encodeString
  ("\uFEFFid,user_id,url,title,tags,collections,published_at,note\r\n\r\n" ++
    "+007,\"u \"\"1\"\"\",https://a.example/,,\" a ,,b\",\"read, never\"," ++
    "2024-02-29t23:59:60.25-01:30,\"x\ny")

def foreignLink : Link where
  id := 7
  userId := "u \"1\""
  title := ""
  url := "https://a.example/"
  tags := ["a", "b"]
  collections := [.read, .never]
  publishedAt := ⟨738945, 5399, 1250000000, by decide, by decide, by decide, by decide⟩

theorem read_foreignTable : Table.read foreignTable = .ok [foreignLink] := by decide +kernel

def foreignShelf : Machine := oneDirectory.set ["shelf", "links.csv"] (some (.file foreignTable))

theorem load_tells_rows_foreign :
    foreignShelf.readFile "shelf/links.csv" = .ok foreignTable ∧
    (∃ rows, Csv.FileText foreignTable rows ∧
      List.Forall₂ (fun row l => Table.IsRow (Table.width rows) (Table.Tells · l) row)
        rows.tail [foreignLink] ∧
      ∀ row ∈ rows.tail, Table.IsRow (Table.width rows) Table.Readable row) ∧
    (load (m := StateM Machine) "shelf/links.csv").run foreignShelf =
      (.ok { path := "shelf/links.csv", shelf := { links := [foreignLink] } }, foreignShelf) ∧
    oneDirectory.locate "shelf/links.csv" = .ok ["shelf", "links.csv"] ∧
    oneDirectory.lookUp ["shelf", "links.csv"] = none ∧
    (load (m := StateM Machine) "shelf/links.csv").run oneDirectory =
      (.ok { path := "shelf/links.csv" }, oneDirectory.set ["shelf", "links.csv"]
        (some (.file (Utf8.encodeString Table.headerLine)))) := by
  have hread : foreignShelf.readFile "shelf/links.csv" = .ok foreignTable :=
    Machine.readFile_set (p := ["shelf", "links.csv"]) rfl foreignTable
  have hload := load_in_shelf read_foreignTable
  obtain ⟨hthere, -⟩ := load_tells_rows foreignShelf "shelf/links.csv"
  obtain ⟨rows, hrows, answer, hrun, hreadable, hlinks⟩ := hthere foreignTable hread
  obtain rfl : answer = .ok { path := "shelf/links.csv", shelf := { links := [foreignLink] } } :=
    congrArg Prod.fst (hrun.symm.trans hload)
  obtain ⟨links, heq, htold⟩ := (hlinks _).mp rfl
  cases heq
  exact ⟨hread, ⟨rows, (hrows rows).mpr rfl, htold, hreadable.mp ⟨_, rfl⟩⟩, hload, rfl, rfl,
    (load_tells_rows oneDirectory "shelf/links.csv").2 _ rfl rfl⟩

end LinkFile
end LinkShelf
