import LinkShelf.Proofs.Store.Atomic

/-! A file of links in use. Whatever happens to the machine meanwhile, so that any link may fail to be
written, the file of links answers as links in memory would that were given the written ones. -/
namespace LinkShelf
namespace Shelf

def createAll (s : Shelf) (ns : List (NewLink × Time.Moment)) : Shelf :=
  ns.foldl (fun s n => (s.create n.1 n.2).2) s

variable {s : Shelf} {id : UInt64}

theorem create_of_some (hs : s.broken = false) (hid : Link.nextId? s.links = some id)
    (n : NewLink) (now : Time.Moment) :
    s.create n now = (.ok (n.toLink id now), { s with links := s.links ++ [n.toLink id now] }) := by
  simp [create, hs, hid]

theorem create_of_none (hs : s.broken = false) (hid : Link.nextId? s.links = none)
    (n : NewLink) (now : Time.Moment) :
    s.create n now = (.error .idsExhausted, { s with broken := true }) := by
  simp [create, hs, hid]

theorem create_ok {n : NewLink} {now : Time.Moment} {link : Link} {s' : Shelf}
    (h : s.create n now = (.ok link, s')) :
    ∃ id, Link.nextId? s.links = some id ∧ link = n.toLink id now ∧
      s' = { links := s.links ++ [link] } := by
  unfold create at h
  split at h
  · cases h
  rename_i hwhole
  split at h
  · cases h
  · rename_i id hid
    cases h
    exact ⟨id, hid, rfl, by simpa using hwhole⟩

theorem nextId?_of_create {n : NewLink} {now : Time.Moment} {link : Link} {s' : Shelf}
    (h : s.create n now = (.ok link, s')) : Link.nextId? s.links = some link.id := by
  obtain ⟨id, hid, rfl, -⟩ := create_ok h
  exact hid

end Shelf

namespace LinkFile

/-- A file of links in use, and the machine that it is on. -/
structure Session where
  file : LinkFile
  machine : Machine

/-- What happens in a session. -/
inductive Event where
  | create (n : NewLink)
  | search (user : String) (f : Filter) (page : Page)
  | count (user : String) (f : Filter)
  /-- Something else changes the machine: it may remove directories or write over files. -/
  | outside (change : Machine → Machine)

inductive Answer where
  | created (r : Except StoreError Link)
  | found (r : Except StoreError (List Link))
  | counted (r : Except StoreError Nat)
  | none
  deriving Repr

namespace Session

def step (c : Session) : Event → Answer × Session
  | .create n =>
    let ((r, file), machine) := (c.file.create (m := StateM Machine) n).run c.machine
    (.created r, { file, machine })
  | .search user f page => (.found (c.file.shelf.search user f page), c)
  | .count user f => (.counted (c.file.shelf.count user f), c)
  | .outside change => (.none, { c with machine := change c.machine })

def after (c : Session) : List Event → Session
  | [] => c
  | e :: es => (c.step e).2.after es

def answers (c : Session) : List Event → List Answer
  | [] => []
  | e :: es => (c.step e).1 :: (c.step e).2.answers es

/-- The new links that an event adds, with their time: one if it makes a link and this is written. -/
def added (c : Session) (e : Event) : List (NewLink × Time.Moment) :=
  match e, (c.step e).1 with
  | .create n, .created (.ok _) => [(n, c.machine.time)]
  | _, _ => []

def addedBy (c : Session) : List Event → List (NewLink × Time.Moment)
  | [] => []
  | e :: es => c.added e ++ (c.step e).2.addedBy es

def HasIds (c : Session) (es : List Event) : Prop :=
  Answer.created (.error .idsExhausted) ∉ c.answers es

variable {c c' : Session} {e : Event} {es : List Event}

theorem hasIds_cons :
    c.HasIds (e :: es) ↔ (c.step e).1 ≠ .created (.error .idsExhausted) ∧ (c.step e).2.HasIds es := by
  simp [HasIds, answers, eq_comm]

end Session

theorem run_create (f : LinkFile) (n : NewLink) (d : Machine) :
    (create (m := StateM Machine) f n).run d =
      match f.shelf.create n d.time with
      | (.error err, shelf) => ((.error err, { f with shelf }), d.tick)
      | (.ok link, shelf) =>
        match (save (m := StateM Machine) f.path shelf.links).run d.tick with
        | (.error err, e) => ((.error (.file err), f), e)
        | (.ok (), e) => ((.ok link, { f with shelf }), e) := by
  rw [create, run_bind (Machine.run_now d)]
  rcases f.shelf.create n d.time with ⟨err | link, shelf⟩
  · rfl
  · cases hsave : (save (m := StateM Machine) f.path shelf.links).run d.tick with
    | mk answer e =>
      simp only
      rw [run_bind hsave, hsave]
      rcases answer with err | u <;> rfl

/-- Making a link fails in memory, or the link cannot be written and is not kept, or it is kept. -/
theorem create_cases (f : LinkFile) (n : NewLink) (d : Machine) :
    (∃ err shelf, f.shelf.create n d.time = (.error err, shelf) ∧
      (create (m := StateM Machine) f n).run d = ((.error err, { f with shelf }), d.tick)) ∨
    (∃ err e, (create (m := StateM Machine) f n).run d = ((.error (.file err), f), e)) ∨
    (∃ link shelf e, f.shelf.create n d.time = (.ok link, shelf) ∧
      (save (m := StateM Machine) f.path shelf.links).run d.tick = (.ok (), e) ∧
      (create (m := StateM Machine) f n).run d = ((.ok link, { f with shelf }), e)) := by
  rw [run_create]
  rcases f.shelf.create n d.time with ⟨err | link, shelf⟩
  · exact .inl ⟨err, shelf, rfl, rfl⟩
  · simp only
    rcases hsave : (save (m := StateM Machine) f.path shelf.links).run d.tick with ⟨err | u, e⟩
    · exact .inr (.inl ⟨err, e, rfl⟩)
    · exact .inr (.inr ⟨link, shelf, e, rfl, hsave, rfl⟩)

theorem create_ok {f f' : LinkFile} {n : NewLink} {link : Link} {d e : Machine}
    (h : (create (m := StateM Machine) f n).run d = ((.ok link, f'), e)) :
    f.shelf.create n d.time = (.ok link, f'.shelf) ∧
      (save (m := StateM Machine) f.path f'.shelf.links).run d.tick = (.ok (), e) := by
  rcases create_cases f n d with ⟨err, shelf, -, hrun⟩ | ⟨err, d', hrun⟩ |
    ⟨made, shelf, d', hshelf, hsave, hrun⟩ <;> rw [hrun] at h <;> cases h
  exact ⟨hshelf, hsave⟩

namespace Session

variable {c c' : Session} {e : Event} {es : List Event}

/-- What making a link does: there is no id for it, or it cannot be written and nothing is kept of
it, or it is the last link of the shelf and of the file. -/
theorem step_create_cases (hwhole : c.file.shelf.broken = false) (n : NewLink) :
    (Link.nextId? c.file.shelf.links = none ∧
      (c.step (.create n)).1 = .created (.error .idsExhausted)) ∨
    (∃ id links err d, Link.nextId? c.file.shelf.links = some id ∧
      (save (m := StateM Machine) c.file.path links).run c.machine.tick = (.error err, d) ∧
      c.step (.create n) = (.created (.error (.file err)), ⟨c.file, d⟩)) ∨
    (∃ link shelf d, c.file.shelf.create n c.machine.time = (.ok link, shelf) ∧
      shelf.broken = false ∧
      (save (m := StateM Machine) c.file.path shelf.links).run c.machine.tick = (.ok (), d) ∧
      c.step (.create n) = (.created (.ok link), ⟨{ c.file with shelf }, d⟩)) := by
  cases hid : Link.nextId? c.file.shelf.links with
  | none =>
    have hcreate := Shelf.create_of_none hwhole hid n c.machine.time
    exact .inl ⟨rfl, by simp only [step, run_create, hcreate]⟩
  | some id =>
    have hcreate := Shelf.create_of_some hwhole hid n c.machine.time
    cases hsave : (save (m := StateM Machine) c.file.path
        (c.file.shelf.links ++ [n.toLink id c.machine.time])).run c.machine.tick with
    | mk answer d =>
      rcases answer with err | u
      · refine .inr (.inl ⟨id, _, err, d, rfl, hsave, ?_⟩)
        simp only [step, run_create, hcreate, hsave]
      · refine .inr (.inr ⟨_, _, d, hcreate, hwhole, hsave, ?_⟩)
        simp only [step, run_create, hcreate, hsave]

theorem step_create_ne (hwhole : c.file.shelf.broken = false)
    (hid : Link.nextId? c.file.shelf.links ≠ none) (n : NewLink) :
    (c.step (.create n)).1 ≠ .created (.error .idsExhausted) := by
  rcases step_create_cases hwhole n with ⟨hnone, -⟩ | ⟨_, _, err, d, -, -, hstep⟩ |
    ⟨link, shelf, d, -, -, -, hstep⟩
  · exact absurd hnone hid
  · simp [hstep]
  · simp [hstep]

/-- One event changes the shelf as the links do that it adds. -/
theorem shelf_step (hwhole : c.file.shelf.broken = false)
    (hids : (c.step e).1 ≠ .created (.error .idsExhausted)) :
    (c.step e).2.file = { c.file with shelf := c.file.shelf.createAll (c.added e) } ∧
      (c.step e).2.file.shelf.broken = false := by
  cases e with
  | search | count | outside => exact ⟨rfl, hwhole⟩
  | create n =>
    rcases step_create_cases hwhole n with ⟨-, hnone⟩ | ⟨_, _, err, d, -, -, hstep⟩ |
      ⟨link, shelf, d, hcreate, hbroken, -, hstep⟩
    · exact absurd hnone hids
    · simp [hstep, added, Shelf.createAll, hwhole]
    · simp [hstep, added, Shelf.createAll, hcreate, hbroken]

theorem file_after (hwhole : c.file.shelf.broken = false) (hids : c.HasIds es) :
    (c.after es).file = { c.file with shelf := c.file.shelf.createAll (c.addedBy es) } ∧
      (c.after es).file.shelf.broken = false := by
  induction es generalizing c with
  | nil => exact ⟨rfl, hwhole⟩
  | cons e es ih =>
    obtain ⟨hnow, hlater⟩ := hasIds_cons.mp hids
    obtain ⟨hfile, hbroken⟩ := shelf_step hwhole hnow
    obtain ⟨hafter, hwhole'⟩ := ih hbroken hlater
    refine ⟨?_, hwhole'⟩
    rw [after, hafter, hfile]
    simp [addedBy, Shelf.createAll]

/-- What is behind a link that was written: the file holds all links, and there is no draft. -/
structure IsWritten (c : Session) : Prop where
  content : c.machine.readFile c.file.path = .ok (Table.write c.file.shelf.links)
  draft : c.machine.status (draftPath c.file.path) = .error .notFound

/-- What is behind a link that could not be written: all is as it was, and the link that is added
next gets the id that this one would have had. -/
structure IsUndone (c c' : Session) : Prop where
  file : c'.file = c.file
  content : ∀ bs, c'.machine.readFile c.file.path = .ok bs ↔ c.machine.readFile c.file.path = .ok bs
  id : ∃ id, Link.nextId? c.file.shelf.links = some id ∧ ∀ es n link,
    c'.HasIds es → c'.addedBy es = [] →
      ((c'.after es).step (.create n)).1 = .created (.ok link) → link.id = id

theorem step_created (hwhole : c.file.shelf.broken = false) {n : NewLink} {link : Link}
    (h : (c.step (.create n)).1 = .created (.ok link)) :
    ∃ shelf d, c.file.shelf.create n c.machine.time = (.ok link, shelf) ∧
      (save (m := StateM Machine) c.file.path shelf.links).run c.machine.tick = (.ok (), d) ∧
      c.step (.create n) = (.created (.ok link), ⟨{ c.file with shelf }, d⟩) := by
  rcases step_create_cases hwhole n with ⟨-, hnone⟩ | ⟨_, _, err, d, -, -, hstep⟩ |
    ⟨link', shelf, d, hcreate, -, hsave, hstep⟩
  · rw [hnone] at h
    cases h
  · rw [hstep] at h
    cases h
  · rw [hstep] at h
    cases h
    exact ⟨shelf, d, hcreate, hsave, hstep⟩

theorem isWritten_step (hwhole : c.file.shelf.broken = false) {n : NewLink} {link : Link}
    (h : (c.step (.create n)).1 = .created (.ok link)) :
    (c.file.shelf.create n c.machine.time).1 = .ok link ∧ (c.step (.create n)).2.IsWritten := by
  obtain ⟨shelf, d, hcreate, hsave, hstep⟩ := step_created hwhole h
  rw [hstep]
  exact ⟨by rw [hcreate], readFile_of_save hsave, status_draft_of_save hsave⟩

theorem id_of_step (hwhole : c.file.shelf.broken = false) {n : NewLink} {link : Link}
    (h : (c.step (.create n)).1 = .created (.ok link)) :
    Link.nextId? c.file.shelf.links = some link.id := by
  obtain ⟨shelf, d, hcreate, -, -⟩ := step_created hwhole h
  exact Shelf.nextId?_of_create hcreate

theorem isUndone_step (hwhole : c.file.shelf.broken = false) {n : NewLink} {err : StoreError}
    (h : (c.step (.create n)).1 = .created (.error err)) (hids : err ≠ .idsExhausted) :
    c.IsUndone (c.step (.create n)).2 := by
  rcases step_create_cases hwhole n with ⟨-, hnone⟩ | ⟨id, links, err', d, hid, hsave, hstep⟩ |
    ⟨link, shelf, d, -, -, -, hstep⟩
  · rw [hnone] at h
    cases h
    exact absurd rfl hids
  · rw [hstep]
    refine ⟨rfl, ?_, id, hid, ?_⟩
    · intro bs
      rw [readFile_of_save_error hsave, Machine.readFile_tick]
    · intro es n' link hids' hnone hlink
      obtain ⟨hfile, hwhole'⟩ := file_after (c := ⟨c.file, d⟩) hwhole hids'
      have hsame : ((Session.mk c.file d).after es).file = c.file := by
        rw [hfile, hnone]
        rfl
      have hnext := id_of_step hwhole' hlink
      rw [hsame, hid] at hnext
      exact (Option.some.inj hnext).symm
  · rw [hstep] at h
    cases h

end Session

theorem whole_of_load {path : String} {f : LinkFile} {d e : Machine}
    (h : (load (m := StateM Machine) path).run d = (.ok f, e)) :
    f.path = path ∧ f.shelf.broken = false := by
  obtain ⟨bs, links, -, -, rfl⟩ := table_of_load h
  exact ⟨rfl, rfl⟩

/-- A file of links that was loaded answers as links in memory to which the links are added that can
be written, and no other. A link that can be written is in the file with all others; one that cannot
leaves nothing behind. -/
theorem session_answers_as_memory {path : String} {f : LinkFile} {d e : Machine}
    (hload : (load (m := StateM Machine) path).run d = (.ok f, e)) {es : List Event}
    (hids : Session.HasIds ⟨f, e⟩ es) :
    let c := Session.after ⟨f, e⟩ es
    let memory := Shelf.createAll { links := f.shelf.links } (Session.addedBy ⟨f, e⟩ es)
    c.file = { path, shelf := memory } ∧
    (∀ user flt page, (c.step (.search user flt page)).1 = .found (memory.search user flt page)) ∧
    (∀ user flt, (c.step (.count user flt)).1 = .counted (memory.count user flt)) ∧
    (∀ n link, (c.step (.create n)).1 = .created (.ok link) →
      (memory.create n c.machine.time).1 = .ok link ∧ (c.step (.create n)).2.IsWritten) ∧
    (∀ n err, (c.step (.create n)).1 = .created (.error err) → err ≠ .idsExhausted →
      c.IsUndone (c.step (.create n)).2) := by
  intro c memory
  obtain ⟨hpath, hwhole⟩ := whole_of_load hload
  obtain ⟨hfile, hwhole'⟩ := Session.file_after (c := ⟨f, e⟩) hwhole hids
  have hmemory : c.file = { path, shelf := memory } := by
    have hshelf : f.shelf = { links := f.shelf.links } := by
      rw [← hwhole]
    rw [hfile]
    simp only [hpath, memory, ← hshelf]
  have hshelf : c.file.shelf = memory := by rw [hmemory]
  refine ⟨hmemory, ?_, ?_, ?_, ?_⟩
  · intro user flt page
    simp only [Session.step, hshelf]
  · intro user flt
    simp only [Session.step, hshelf]
  · intro n link hlink
    rw [← hshelf]
    exact Session.isWritten_step hwhole' hlink
  · intro n err herr hne
    exact Session.isUndone_step hwhole' herr hne

def withTable : Machine := oneDirectory.set ["shelf", "links.csv"] (some (.file (Table.write [])))

theorem load_oneDirectory : (load (m := StateM Machine) "shelf/links.csv").run oneDirectory =
    (.ok { path := "shelf/links.csv", shelf := {} }, withTable) :=
  load_of_none (p := ["shelf", "links.csv"]) rfl rfl

/-- A new link, another one while the directory is away, and the directory back again. -/
def lossy : List Event :=
  [.create { userId := "ann", url := "https://example.org/", tags := some ["A", "a"] },
    .outside (·.remove ["shelf"]),
    .create { userId := "ann", url := "https://example.org/lost" },
    .outside fun d => (d.makeDirectories "shelf").2]

theorem hasIds_lossy :
    Session.HasIds ⟨{ path := "shelf/links.csv", shelf := {} }, withTable⟩ lossy := by
  refine Session.hasIds_cons.mpr ⟨Session.step_create_ne rfl (by decide) _, ?_⟩
  refine Session.hasIds_cons.mpr ⟨by simp [Session.step], ?_⟩
  refine Session.hasIds_cons.mpr ⟨Session.step_create_ne rfl (by decide) _, ?_⟩
  simp [Session.HasIds, Session.answers, Session.step]

theorem session_answers_as_memory_lossy :
    (load (m := StateM Machine) "shelf/links.csv").run oneDirectory =
      (.ok { path := "shelf/links.csv", shelf := {} }, withTable) ∧
    Session.HasIds ⟨{ path := "shelf/links.csv", shelf := {} }, withTable⟩ lossy ∧
    let c := Session.after ⟨{ path := "shelf/links.csv", shelf := {} }, withTable⟩ lossy
    (c.step (.count "ann" {})).1 = .counted ((Shelf.createAll {}
      (Session.addedBy ⟨{ path := "shelf/links.csv", shelf := {} }, withTable⟩ lossy)).count
        "ann" {}) := by
  obtain ⟨-, -, hcount, -⟩ := session_answers_as_memory load_oneDirectory hasIds_lossy
  exact ⟨load_oneDirectory, hasIds_lossy, hcount "ann" {}⟩

end LinkFile
end LinkShelf
