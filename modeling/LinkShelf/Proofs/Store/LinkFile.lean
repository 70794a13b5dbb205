import LinkShelf.Proofs.Host.Machine
import LinkShelf.Proofs.Store.Table
import LinkShelf.Store.LinkFile

/-! A file of links that was saved is loaded with the same links. -/
namespace LinkShelf

/-- A path in a directory that is there, at which a file of links and its draft can be put. -/
structure Machine.Admits (d : Machine) (path : String) : Prop where
  file : ∃ p, d.locateFile path = .ok p
  draft : ∃ p, d.locateFile (LinkFile.draftPath path) = .ok p

namespace LinkFile

variable {d e : Machine} {path : String} {links : List Link}

/-- A file of links can be put under each name in a directory, unless a directory has that name or
the one of the draft. -/
theorem admits_of_directory {dir name : String} {here : Place} (hdir : d.locate dir = .ok here)
    (hhere : d.lookUp here = some .directory) (hname : Machine.IsFileName name)
    (hdraft : Machine.IsFileName (draftPath name))
    (hsize : (draftPath (dir ++ "/" ++ name)).utf8ByteSize < 4096)
    (hfile : d.lookUp (here ++ [name]) ≠ some .directory)
    (hfree : d.lookUp (here ++ [draftPath name]) ≠ some .directory) :
    d.Admits (dir ++ "/" ++ name) := by
  have hpath : draftPath (dir ++ "/" ++ name) = dir ++ "/" ++ draftPath name :=
    String.append_assoc ..
  have hshort : (dir ++ "/" ++ name).utf8ByteSize < 4096 := by
    rw [draftPath, String.utf8ByteSize_append] at hsize
    omega
  rw [hpath] at hsize
  refine ⟨⟨_, Machine.locateFile_child hdir hhere hname hshort hfile⟩, here ++ [draftPath name], ?_⟩
  rw [hpath]
  exact Machine.locateFile_child hdir hhere hdraft hsize hfree

theorem run_save (d : Machine) (path : String) (links : List Link) :
    (save (m := StateM Machine) path links).run d =
      match d.writeFile (draftPath path) (Table.write links) with
      | (.error err, e) => (.error err, e)
      | (.ok (), e) => e.rename (draftPath path) path := by
  rw [save, StateT.run_bind, Machine.run_writeFile]
  rcases d.writeFile (draftPath path) (Table.write links) with ⟨err | u, e⟩
  · rfl
  · exact Machine.run_rename e (draftPath path) path

theorem run_ensureExists (d : Machine) (path : String) :
    (ensureExists (m := StateM Machine) path).run d =
      match d.status path with
      | .error .notFound => d.writeFile path (Table.write [])
      | r => (r, d) := by
  rw [ensureExists, run_bind (Machine.run_status d path)]
  rcases d.status path with err | u
  · cases err <;> rfl
  · rfl

theorem run_load (d : Machine) (path : String) :
    (load (m := StateM Machine) path).run d =
      match (ensureExists (m := StateM Machine) path).run d with
      | (.error err, e) => (.error (.file err), e)
      | (.ok (), e) =>
        match e.readFile path with
        | .error err => (.error (.file err), e)
        | .ok bs => ((Table.read bs).map fun links => { path, shelf := { links } }, e) := by
  cases hexists : (ensureExists (m := StateM Machine) path).run d with
  | mk answer e =>
    rw [load, run_bind hexists]
    rcases answer with err | u
    · rfl
    · simp only
      rw [run_bind (Machine.run_readFile e path)]
      rcases e.readFile path with err | bs <;> rfl

theorem readFile_of_save (h : (save (m := StateM Machine) path links).run d = (.ok (), e)) :
    e.readFile path = .ok (Table.write links) := by
  rw [run_save] at h
  cases hwrite : d.writeFile (draftPath path) (Table.write links) with
  | mk answer middle =>
    cases answer with
    | error err =>
      simp only [hwrite] at h
      cases h
    | ok u =>
      simp only [hwrite] at h
      exact Machine.readFile_rename (Machine.readFile_writeFile hwrite) h

theorem save_of_admits (h : d.Admits path) (links : List Link) :
    ∃ e, (save (m := StateM Machine) path links).run d = (.ok (), e) := by
  obtain ⟨q, hq⟩ := h.file
  obtain ⟨p, hp⟩ := h.draft
  have hwrite := Machine.writeFile_of_locateFile hp (Table.write links)
  have hdraft := Machine.readFile_set hp (Table.write links)
  obtain ⟨r, hr, hfile⟩ := Machine.readFile_eq_ok.mp hdraft
  have htarget := Machine.locateFile_set (n := some (.file (Table.write links))) hq
    (Machine.locate_of_locateFile hp).2 (by simp)
  rw [run_save, hwrite]
  exact ⟨_, Machine.rename_of_locateFile hr hfile htarget⟩

theorem load_eq_of_readFile {bs : Bytes} (hread : d.readFile path = .ok bs) :
    (load (m := StateM Machine) path).run d =
      ((Table.read bs).map fun links => { path, shelf := { links } }, d) := by
  rw [run_load, run_ensureExists, Machine.status_of_readFile hread]
  simp only [hread]

theorem load_of_readFile {bs : Bytes} (hread : d.readFile path = .ok bs)
    (hlinks : Table.read bs = .ok links) :
    (load (m := StateM Machine) path).run d = (.ok { path, shelf := { links } }, d) := by
  rw [load_eq_of_readFile hread, hlinks]
  rfl

theorem load_of_none {p : Place} (hlocate : d.locate path = .ok p) (hnone : d.lookUp p = none) :
    (load (m := StateM Machine) path).run d =
      (.ok { path }, d.set p (some (.file (Table.write [])))) := by
  have hfree : d.locateFile path = .ok p := Machine.locateFile_of_locate hlocate (by simp [hnone])
  have hlinks : Table.read (Table.write []) = .ok [] := Table.read_write (by simp)
  rw [run_load, run_ensureExists, Machine.status_of_lookUp_none hlocate hnone]
  simp only [Machine.writeFile_of_locateFile hfree, Machine.readFile_set hfree, hlinks, Except.map]

/-- What loading does: it fails and changes nothing, or finds a table, or makes an empty one where
nothing is. -/
theorem load_cases (d : Machine) (path : String) :
    (∃ err, (load (m := StateM Machine) path).run d = (.error err, d)) ∨
    (∃ p bs links, d.locate path = .ok p ∧ d.lookUp p = some (.file bs) ∧
      Table.read bs = .ok links ∧
      (load (m := StateM Machine) path).run d = (.ok { path, shelf := { links } }, d)) ∨
    (∃ p, d.locate path = .ok p ∧ d.lookUp p = none ∧
      (load (m := StateM Machine) path).run d =
        (.ok { path }, d.set p (some (.file (Table.write []))))) := by
  cases hstatus : d.status path with
  | ok u =>
    rw [run_load, run_ensureExists, hstatus]
    simp only
    cases hread : d.readFile path with
    | error err => exact .inl ⟨_, rfl⟩
    | ok bs =>
      obtain ⟨p, hlocate, hfile⟩ := Machine.readFile_eq_ok.mp hread
      cases hlinks : Table.read bs with
      | error err => exact .inl ⟨err, by simp only [hlinks, Except.map]⟩
      | ok links =>
        exact .inr (.inl ⟨p, bs, links, hlocate, hfile, hlinks, by simp only [hlinks, Except.map]⟩)
  | error err =>
    by_cases hmissing : err = .notFound
    · subst hmissing
      cases hfree : d.locateFile path with
      | error err =>
        refine .inl ⟨.file err, ?_⟩
        rw [run_load, run_ensureExists, hstatus]
        simp only [Machine.writeFile, hfree]
      | ok p =>
        obtain ⟨hlocate, hnode⟩ := Machine.locate_of_locateFile hfree
        have hnone := Machine.lookUp_of_status hlocate hstatus
        exact .inr (.inr ⟨p, hlocate, hnone, load_of_none hlocate hnone⟩)
    · refine .inl ⟨.file err, ?_⟩
      rw [run_load, run_ensureExists, hstatus]
      cases err <;> first | exact absurd rfl hmissing | rfl

theorem table_of_load {f : LinkFile} (h : (load (m := StateM Machine) path).run d = (.ok f, e)) :
    ∃ bs links, e.readFile path = .ok bs ∧ Table.read bs = .ok links ∧
      f = { path, shelf := { links } } := by
  rcases load_cases d path with ⟨err, hrun⟩ | ⟨p, bs, links, hlocate, hfile, hlinks, hrun⟩ |
    ⟨p, hlocate, hnone, hrun⟩ <;> rw [hrun] at h <;> cases h
  · exact ⟨bs, links, Machine.readFile_eq_ok.mpr ⟨p, hlocate, hfile⟩, hlinks, rfl⟩
  · have hfree := Machine.locateFile_of_locate hlocate (by simp [hnone])
    exact ⟨_, [], Machine.readFile_set hfree _, Table.read_write (by simp), rfl⟩

theorem load_of_save_told (hlinks : ∀ l ∈ links, l.Recordable)
    (h : (save (m := StateM Machine) path links).run d = (.ok (), e)) :
    (load (m := StateM Machine) path).run e =
      (.ok { path, shelf := { links := links.map Link.told } }, e) :=
  load_of_readFile (readFile_of_save h) (Table.read_write_told hlinks)

/-- Links that records can hold are saved at every path that admits a file. Loading that path gives the
same links in the same order, but for the times that no clock shows: these come back as they are told. -/
theorem load_save (hlinks : ∀ l ∈ links, l.Recordable) (hd : d.Admits path) :
    ∃ e, (save (m := StateM Machine) path links).run d = (.ok (), e) ∧
      (load (m := StateM Machine) path).run e =
        (.ok { path, shelf := { links := links.map Link.told } }, e) ∧
      (links.map Link.told = links ↔ ∀ l ∈ links, l.publishedAt.IsInstant) := by
  obtain ⟨e, hsave⟩ := save_of_admits hd links
  exact ⟨e, hsave, load_of_save_told hlinks hsave, Link.map_told_eq_iff⟩

def leapSecond : Time.Instant :=
  (Time.Instant.ofParts? 736328 86399 1500000000).get (by decide)

/-- A link of a leap second, with quotes, commas and line ends in its texts. -/
def awkward : Link where
  id := 18446744073709551615
  userId := "\"a\",\r\nb"
  title := ""
  url := "\uFEFF\"\"\n"
  tags := ["two words", "\"Ü\""]
  collections := [.never, .read]
  publishedAt := leapSecond

def oneDirectory : Machine where
  node p := if p = ["shelf"] then some .directory else none
  clock _ := leapSecond

theorem awkward_durable : awkward.Durable where
  isItem := by decide
  zero_le_year := by decide
  year_le := by decide
  isInstant := by decide

theorem oneDirectory_admits : oneDirectory.Admits "shelf/links.csv" := by
  have hdir : oneDirectory.locate "shelf" = .ok ["shelf"] := rfl
  have hname : Machine.IsFileName "links.csv" := by constructor <;> decide
  have hdraft : Machine.IsFileName (draftPath "links.csv") := by constructor <;> decide
  exact admits_of_directory hdir rfl hname hdraft (by decide) (by decide) (by decide)

theorem load_in_shelf {bs : Bytes} {links : List Link} (h : Table.read bs = .ok links) :
    (load (m := StateM Machine) "shelf/links.csv").run
        (oneDirectory.set ["shelf", "links.csv"] (some (.file bs))) =
      (.ok { path := "shelf/links.csv", shelf := { links } },
        oneDirectory.set ["shelf", "links.csv"] (some (.file bs))) := by
  have hfree : oneDirectory.locateFile "shelf/links.csv" = .ok ["shelf", "links.csv"] := rfl
  exact load_of_readFile (Machine.readFile_set hfree bs) h

theorem admits_in_shelf (bs : Bytes) :
    (oneDirectory.set ["shelf", "links.csv"] (some (.file bs))).Admits "shelf/links.csv" :=
  ⟨⟨["shelf", "links.csv"], rfl⟩, ["shelf", "links.csv-tmp"], rfl⟩

theorem load_save_awkward : (∀ l ∈ [awkward, awkward], l.Recordable) ∧
    oneDirectory.Admits "shelf/links.csv" ∧
    ∃ e, (save (m := StateM Machine) "shelf/links.csv" [awkward, awkward]).run oneDirectory =
        (.ok (), e) ∧
      (load (m := StateM Machine) "shelf/links.csv").run e =
        (.ok { path := "shelf/links.csv", shelf := { links := [awkward, awkward] } }, e) := by
  have hlinks : ∀ l ∈ [awkward, awkward], l.Durable := by
    intro l hl
    obtain rfl : l = awkward := by simpa using hl
    exact awkward_durable
  obtain ⟨e, hsave, hload, hsame⟩ :=
    load_save (fun l hl => (hlinks l hl).toRecordable) oneDirectory_admits
  rw [hsame.mpr fun l hl => (hlinks l hl).isInstant] at hload
  exact ⟨fun l hl => (hlinks l hl).toRecordable, oneDirectory_admits, e, hsave, hload⟩

/-- The link is written with the time 12:00:01.5, and that is what is loaded. -/
theorem overlong_changed_by_file : Link.overlong.Recordable ∧
    oneDirectory.Admits "shelf/links.csv" ∧
    ¬ ∃ e, (save (m := StateM Machine) "shelf/links.csv" [Link.overlong]).run oneDirectory =
        (.ok (), e) ∧
      (load (m := StateM Machine) "shelf/links.csv").run e =
        (.ok { path := "shelf/links.csv", shelf := { links := [Link.overlong] } }, e) := by
  have hrecordable : Link.overlong.Recordable := ⟨by decide, by decide, by decide⟩
  refine ⟨hrecordable, oneDirectory_admits, ?_⟩
  rintro ⟨e, hsave, hload⟩
  have htold := load_of_save_told (List.forall_mem_singleton.mpr hrecordable) hsave
  rw [hload] at htold
  have hlinks : [Link.overlong] = [Link.overlong.told] := by
    injection htold with hloaded
    injection hloaded with hfile
    injection hfile with _ hshelf
    injection hshelf
  have hsame : Link.overlong = Link.overlong.told := List.singleton_inj.mp hlinks
  exact absurd (Link.told_eq_iff.mp hsame.symm) (by decide)

end LinkFile
end LinkShelf
