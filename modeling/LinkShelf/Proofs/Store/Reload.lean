import LinkShelf.Proofs.Store.Freshness

/-! What is loaded after a link was made. Every row of the file is read back, with its time as it is
told and its tags as they are cut out of the joined ones, if all times are in years of four digits. A
time in another year is written and refused, so that nothing can be loaded any more. -/
namespace LinkShelf
namespace Link

/-- The time is in a year of four digits. -/
def Dated (l : Link) : Prop := 0 ≤ l.publishedAt.year ∧ l.publishedAt.year ≤ 9999

instance (l : Link) : Decidable l.Dated := inferInstanceAs (Decidable (_ ∧ _))

def reread (l : Link) : Link := { l.told with tags := Text.items (Text.joinItems l.tags) }

end Link

namespace Table

variable {l : Link}

theorem readLink_of_dated (h : l.Dated) : readLink (fields l) = .ok l.reread := by
  rw [readLink_fields_eq, Time.Moment.readStrict_textOffset h.1 h.2]
  rfl

theorem readLink_of_not_dated (h : ¬ l.Dated) : readLink (fields l) = .error (.time .invalid) := by
  rw [readLink_fields_eq, Time.Moment.readStrict_textOffset_of_sign h]
  rfl

/-- One time in a year of another width keeps the whole table from being read. -/
theorem read_write_dated (links : List Link) :
    read (write links) =
      if ∀ l ∈ links, l.Dated then .ok (links.map Link.reread) else .error (.time .invalid) := by
  rw [read_write_eq]
  induction links with
  | nil => rfl
  | cons l links ih =>
    simp only [List.mapM_cons, ih, List.forall_mem_cons]
    by_cases hl : l.Dated
    · rw [readLink_of_dated hl]
      by_cases hlinks : ∀ l ∈ links, l.Dated
      · rw [if_pos hlinks, if_pos ⟨hl, hlinks⟩]
        rfl
      · rw [if_neg hlinks, if_neg fun hall => hlinks hall.2]
        rfl
    · rw [readLink_of_not_dated hl, if_neg fun hall : l.Dated ∧ _ => hl hall.1]
      rfl

end Table

namespace LinkFile

variable {f f' : LinkFile} {n : NewLink} {link : Link} {d e : Machine} {path : String}
  {links : List Link}

theorem load_of_save (h : (save (m := StateM Machine) path links).run d = (.ok (), e)) :
    (load (m := StateM Machine) path).run e =
      (if ∀ l ∈ links, l.Dated then .ok { path, shelf := { links := links.map Link.reread } }
        else .error (.time .invalid), e) := by
  rw [load_eq_of_readFile (readFile_of_save h), Table.read_write_dated]
  split <;> rfl

theorem save_of_create
    (h : (create (m := StateM Machine) f n).run d = ((.ok link, f'), e)) :
    (save (m := StateM Machine) f.path (f.shelf.links ++ [link])).run d.tick = (.ok (), e) := by
  obtain ⟨hshelf, hsave⟩ := create_ok h
  obtain ⟨-, -, -, hlinks⟩ := Shelf.create_ok hshelf
  rwa [hlinks] at hsave

/-- A file to which a link was added can be loaded again, with one link more, exactly if the times of
all links are in years of four digits. Otherwise loading it fails at the time. -/
theorem loadable_after_create_iff
    (h : (create (m := StateM Machine) f n).run d = ((.ok link, f'), e)) :
    ((∃ g, (load (m := StateM Machine) f.path).run e = (.ok g, e) ∧
        g.shelf.links.length = f.shelf.links.length + 1) ↔
      ∀ l ∈ f.shelf.links ++ [link], l.Dated) ∧
    ((load (m := StateM Machine) f.path).run e = (.error (.time .invalid), e) ↔
      ¬ ∀ l ∈ f.shelf.links ++ [link], l.Dated) := by
  have hload := load_of_save (save_of_create h)
  by_cases hdated : ∀ l ∈ f.shelf.links ++ [link], l.Dated
  · rw [if_pos hdated] at hload
    rw [hload]
    refine ⟨⟨fun _ => hdated, fun _ => ⟨_, rfl, by simp⟩⟩, ⟨?_, fun hnot => absurd hdated hnot⟩⟩
    intro herr
    cases herr
  · rw [if_neg hdated] at hload
    rw [hload]
    refine ⟨⟨?_, fun hall => absurd hall hdated⟩, ⟨fun _ => hdated, fun _ => rfl⟩⟩
    rintro ⟨g, hg, -⟩
    cases hg

theorem create_of_admits {id : UInt64} (hwhole : f.shelf.broken = false)
    (hid : Link.nextId? f.shelf.links = some id) (hd : d.Admits f.path) (n : NewLink) :
    ∃ f' e, (create (m := StateM Machine) f n).run d = ((.ok (n.toLink id d.time), f'), e) := by
  have hlater : d.tick.Admits f.path := by
    refine ⟨?_, ?_⟩
    · simpa using hd.file
    · simpa using hd.draft
  obtain ⟨e, hsave⟩ := save_of_admits hlater (f.shelf.links ++ [n.toLink id d.time])
  rw [run_create, Shelf.create_of_some hwhole hid]
  simp only [hsave]
  exact ⟨_, _, rfl⟩

theorem loadable_after_create_iff_of_none :
    ∃ link f' e,
      (create (m := StateM Machine) { path := "shelf/links.csv" }
        { userId := "ann", url := "https://example.org/", tags := some ["a, b", " "] }).run
          oneDirectory = ((.ok link, f'), e) ∧
      ∃ g, (load (m := StateM Machine) "shelf/links.csv").run e = (.ok g, e) ∧
        g.shelf.links.length = 1 := by
  obtain ⟨f', e, hcreate⟩ := create_of_admits (f := { path := "shelf/links.csv" }) rfl rfl
    oneDirectory_admits
    { userId := "ann", url := "https://example.org/", tags := some ["a, b", " "] }
  refine ⟨_, f', e, hcreate, (loadable_after_create_iff hcreate).1.mpr ?_⟩
  intro l hl
  obtain rfl := List.mem_singleton.mp hl
  decide

/-- A table with one row, of the last half hour of the year 9999 on a clock that is one hour behind.
In UTC that is in the year 10000. -/
def lateTable : Bytes := Utf8.encodeString
  ("id,user_id,url,title,tags,collections,published_at\n" ++
    "0,ann,https://example.org/,,,,9999-12-31T23:30:00-01:00\n")

def late : Link where
  id := 0
  userId := "ann"
  title := ""
  url := "https://example.org/"
  tags := []
  collections := []
  publishedAt := (Time.Instant.ofParts? 3652059 1800 0).get (by decide)

theorem read_lateTable : Table.read lateTable = .ok [late] := by
  have hread : (Table.read lateTable).toOption = some [late] := by decide +kernel
  cases hlinks : Table.read lateTable with
  | error err =>
    rw [hlinks] at hread
    cases hread
  | ok links =>
    rw [hlinks] at hread
    cases hread
    rfl

def withLateTable : Machine :=
  oneDirectory.set ["shelf", "links.csv"] (some (.file lateTable))

def newcomer : NewLink where
  userId := "ann"
  url := "https://example.org/new"
  publishedAt := some ((Time.Instant.ofParts? 739006 30600 0).get (by decide))

/-- The table is loaded and a link is added to it, and then it cannot be loaded any more. -/
theorem late_row_refused_after_create :
    (load (m := StateM Machine) "shelf/links.csv").run withLateTable =
      (.ok { path := "shelf/links.csv", shelf := { links := [late] } }, withLateTable) ∧
    ∃ link f' e,
      (create (m := StateM Machine) { path := "shelf/links.csv", shelf := { links := [late] } }
        newcomer).run withLateTable = ((.ok link, f'), e) ∧
      (load (m := StateM Machine) "shelf/links.csv").run e = (.error (.time .invalid), e) := by
  have hlate : ¬ late.Dated := by decide
  obtain ⟨f', e, hcreate⟩ := create_of_admits
    (f := { path := "shelf/links.csv", shelf := { links := [late] } }) rfl rfl
    (admits_in_shelf lateTable) newcomer
  refine ⟨load_in_shelf read_lateTable, _, f', e, hcreate, ?_⟩
  rw [load_of_save (save_of_create hcreate), if_neg fun hall => hlate (hall late (by simp))]

end LinkFile
end LinkShelf
