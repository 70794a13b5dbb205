import LinkShelf.Proofs.Host.Faulty
import LinkShelf.Proofs.Program.Runs

/-! The program on a faulty machine. A run that ends well does what it does where nothing goes wrong.
Of any other run this tells which files it may have changed: loading the settings writes to their file
only, opening the links makes a file only where none is, and making a link that fails writes to the
draft only. -/
namespace LinkShelf

open FaultyMachine

namespace Settings

variable (base path : String)

theorem tracks_save (s : Settings) : Tracks IsError (save (m := StateM FaultyMachine) base s)
    (save (m := StateM Machine) base s) :=
  .bind_ok (.writeFile _ _) (fun _ => rfl) (fun _ => rfl) (fun _ => ⟨_, rfl⟩) fun _ => .pure _

theorem tracks_ensureFile : Tracks IsError (ensureFile (m := StateM FaultyMachine) path)
    (ensureFile (m := StateM Machine) path) := by
  refine .bind (.status path) (fun r => ?_) fun _ hfalse => hfalse.elim
  cases r with
  | ok u => exact .pure _
  | error err =>
    exact .bind_ok (.writeFile _ _) (fun _ => rfl) (fun _ => rfl) (fun _ => ⟨_, rfl⟩) fun _ => .pure _

theorem tracks_load : Tracks IsError (load (m := StateM FaultyMachine) base)
    (load (m := StateM Machine) base) := by
  refine .bind_ok (.makeDirectories base) (fun _ => rfl) (fun _ => rfl) (fun _ => ⟨_, rfl⟩) fun _ => ?_
  refine .bind_ok (tracks_ensureFile _) (fun _ => rfl) (fun _ => rfl) (fun _ => ⟨_, rfl⟩) fun _ => ?_
  refine .bind_ok (.readFile _) (fun _ => rfl) (fun _ => rfl) (fun _ => ⟨_, rfl⟩) fun bs => ?_
  simp only
  cases ofBytes (filePath base) bs with
  | error err => exact .pure _
  | ok s =>
    simp only
    split
    · exact .pure _
    · exact .bind_ok (tracks_save base s) (fun _ => rfl) (fun _ => rfl) (fun _ => ⟨_, rfl⟩)
        fun _ => .pure _

theorem writesOnly_save (s : Settings) :
    WritesOnly (filePath base) (save (m := StateM FaultyMachine) base s) :=
  .bind (.writeFile _ _) fun _ => .pure _

theorem writesOnly_ensureFile : WritesOnly path (ensureFile (m := StateM FaultyMachine) path) := by
  refine .bind (.status path path) fun r => ?_
  cases r with
  | ok u => exact .pure _
  | error err => exact .bind (.writeFile _ _) fun _ => .pure _

variable {base} {d e : FaultyMachine} {r : Except SettingsError Settings}

theorem touchesOnly_of_load (h : (load (m := StateM FaultyMachine) base).run d = (r, e)) :
    (d.attempt (d.machine.makeDirectories base)).2.machine.TouchesOnly e.machine (filePath base) := by
  rw [load] at h
  refine WritesOnly.of_bind (x := Host.makeDirectories base) (fun made => ?_) h
  cases made with
  | error err => exact .pure _
  | ok u =>
    refine .bind (writesOnly_ensureFile _) fun ensured => ?_
    cases ensured with
    | error err => exact .pure _
    | ok u =>
      refine .bind (.readFile _ _) fun contents => ?_
      cases contents with
      | error err => exact .pure _
      | ok bs =>
        simp only
        cases ofBytes (filePath base) bs with
        | error err => exact .pure _
        | ok s =>
          simp only
          split
          · exact .pure _
          · exact .bind (writesOnly_save base s) fun _ => .pure _

theorem contentAt?_of_load (h : (load (m := StateM FaultyMachine) base).run d = (r, e)) {q : Place}
    (hq : (d.machine.makeDirectories base).2.locate (filePath base) ≠ .ok q) :
    e.machine.contentAt? q = d.machine.contentAt? q := by
  have htouched := touchesOnly_of_load h
  rcases d.attempt_cases (d.machine.makeDirectories base) with hmade | ⟨f, -, hfailed⟩
  · rw [hmade] at htouched
    rw [htouched.contents q hq]
    exact Machine.contentAt?_makeDirectories d.machine base q
  · rw [load, run_bind ((run_makeDirectories d base).trans hfailed)] at h
    cases h
    rfl

theorem load_of_none {m : Machine} {p : Place} (hmake : m.makeDirectories base = (.ok (), m))
    (hlocate : m.locate (filePath base) = .ok p) (hnone : m.lookUp p = none)
    (rest : List (Option Fault)) :
    (load (m := StateM FaultyMachine) base).run ⟨m, none :: none :: none :: rest⟩ =
      (.ok {}, ⟨m.set p (some (.file ({} : Settings).bytes)), rest⟩) := by
  have hfree := Machine.locateFile_of_locate hlocate (by simp [hnone])
  have hmade : StateT.run (m := Id) (Host.makeDirectories base)
      (FaultyMachine.mk m (none :: none :: none :: rest)) = (.ok (), .mk m (none :: none :: rest)) := by
    rw [run_makeDirectories, attempt_none, hmake]
  have hwrite : StateT.run (m := Id) (Host.writeFile (filePath base) ({} : Settings).bytes)
      (FaultyMachine.mk m (none :: none :: rest)) =
      (.ok (), .mk (m.set p (some (.file ({} : Settings).bytes))) (none :: rest)) := by
    rw [run_writeFile, writeFile_none, Machine.writeFile_of_locateFile hfree]
  have hread : StateT.run (m := Id) (Host.readFile (filePath base))
      (FaultyMachine.mk (m.set p (some (.file ({} : Settings).bytes))) (none :: rest)) =
      (.ok ({} : Settings).bytes, .mk (m.set p (some (.file ({} : Settings).bytes))) rest) := by
    rw [run_readFile, attempt_none, Machine.readFile_set hfree]
  have hwritten : (ensureFile (m := StateM FaultyMachine) (filePath base)).run
      (.mk m (none :: none :: rest)) =
      (.ok (), .mk (m.set p (some (.file ({} : Settings).bytes))) (none :: rest)) := by
    rw [ensureFile, run_bind (run_status _ _)]
    simp only [Machine.status_of_lookUp_none hlocate hnone]
    rw [run_bind hwrite]
    rfl
  rw [load, run_bind hmade]
  simp only
  rw [run_bind hwritten]
  simp only
  rw [run_bind hread]
  simp only [ofBytes_initial, if_true]
  rfl

end Settings

namespace LinkFile

variable (path : String)

theorem tracks_ensureExists : Tracks IsError (ensureExists (m := StateM FaultyMachine) path)
    (ensureExists (m := StateM Machine) path) := by
  refine .bind (.status path) (fun r => ?_) fun _ hfalse => hfalse.elim
  split
  · exact .writeFile _ _
  · exact .pure _

theorem tracks_load : Tracks IsError (load (m := StateM FaultyMachine) path)
    (load (m := StateM Machine) path) := by
  refine .bind_ok (tracks_ensureExists path) (fun _ => rfl) (fun _ => rfl) (fun _ => ⟨_, rfl⟩)
    fun _ => ?_
  exact .bind_ok (.readFile _) (fun _ => rfl) (fun _ => rfl) (fun _ => ⟨_, rfl⟩) fun _ => .pure _

theorem tracks_save (links : List Link) : Tracks IsError (save (m := StateM FaultyMachine) path links)
    (save (m := StateM Machine) path links) :=
  .bind_ok (.writeFile _ _) (fun _ => rfl) (fun _ => rfl) (fun _ => ⟨_, rfl⟩) fun _ => .rename _ _

theorem tracks_create (f : LinkFile) (n : NewLink) :
    Tracks (fun r => IsError r.1) (create (m := StateM FaultyMachine) f n)
      (create (m := StateM Machine) f n) := by
  refine .bind .now (fun now => ?_) fun _ hfalse => hfalse.elim
  rcases f.shelf.create n now with ⟨err | link, shelf⟩
  · exact .pure _
  · exact .bind_ok (tracks_save _ _) (fun _ => rfl) (fun _ => rfl) (fun _ => ⟨_, rfl⟩) fun _ => .pure _

variable {path} {d e : FaultyMachine} {links : List Link}

/-- A file is made only where none is: an empty table, or what is left of one that could not be
written. -/
theorem ensureExists_changes {r : Except FileError Unit}
    (h : (ensureExists (m := StateM FaultyMachine) path).run d = (r, e)) :
    e.machine = d.machine ∨ ∃ p bs, d.machine.locate path = .ok p ∧ d.machine.lookUp p = none ∧
      e.machine = d.machine.set p (some (.file bs)) ∧
      (bs = Table.write [] ∨ ∃ err, some (.torn bs err) ∈ d.faults ∧ r = .error err) := by
  rw [ensureExists, run_bind (run_status d path)] at h
  split at h
  · rename_i hstatus
    have hnone := fun p hp => Machine.lookUp_of_status (p := p) hp hstatus
    rw [run_writeFile] at h
    rcases d.writeFile_cases path (Table.write []) with hsame | ⟨f, -, hfailed⟩ |
      ⟨left, err, p, hfault, hfree, hfailed⟩
    · rw [hsame] at h
      cases hfree : d.machine.locateFile path with
      | error err =>
        simp only [Machine.writeFile, hfree] at h
        cases h
        exact .inl rfl
      | ok p =>
        have hlocate := (Machine.locate_of_locateFile hfree).1
        rw [Machine.writeFile_of_locateFile hfree] at h
        cases h
        exact .inr ⟨p, _, hlocate, hnone p hlocate, rfl, .inl rfl⟩
    · rw [hfailed] at h
      cases h
      exact .inl rfl
    · have hlocate := (Machine.locate_of_locateFile hfree).1
      rw [hfailed] at h
      cases h
      exact .inr ⟨p, left, hlocate, hnone p hlocate, rfl, .inr ⟨err, hfault, rfl⟩⟩
  · cases h
    exact .inl rfl

theorem load_changes {r : Except Table.LoadError LinkFile}
    (h : (load (m := StateM FaultyMachine) path).run d = (r, e)) :
    e.machine = d.machine ∨ ∃ p bs, d.machine.locate path = .ok p ∧ d.machine.lookUp p = none ∧
      e.machine = d.machine.set p (some (.file bs)) ∧
      (bs = Table.write [] ∨ ∃ err, some (.torn bs err) ∈ d.faults ∧ r = .error (.file err)) := by
  cases hexists : (ensureExists (m := StateM FaultyMachine) path).run d with
  | mk ensured d₁ =>
    have hchanges := ensureExists_changes hexists
    rw [load, run_bind hexists] at h
    cases ensured with
    | error err =>
      cases h
      refine hchanges.imp_right ?_
      rintro ⟨p, bs, hlocate, hnone, hmade, hbs⟩
      refine ⟨p, bs, hlocate, hnone, hmade, hbs.imp_right ?_⟩
      rintro ⟨err', hfault, herr⟩
      exact ⟨err', hfault, by rw [Except.error.inj herr]⟩
    | ok u =>
      -- what is read then is not changed
      have hsame : e.machine = d₁.machine := by
        simp only at h
        rcases d₁.attempt_cases (d₁.machine.readFile path, d₁.machine) with hread | ⟨f, -, hread⟩
        · rw [run_bind ((run_readFile d₁ path).trans hread)] at h
          cases hcontent : d₁.machine.readFile path <;> rw [hcontent] at h <;> cases h <;> rfl
        · rw [run_bind ((run_readFile d₁ path).trans hread)] at h
          cases h
          rfl
      rw [hsame]
      refine hchanges.imp_right ?_
      rintro ⟨p, bs, hlocate, hnone, hmade, hbs⟩
      refine ⟨p, bs, hlocate, hnone, hmade, hbs.imp_right ?_⟩
      rintro ⟨err, -, herr⟩
      cases herr

theorem load_of_torn {m : Machine} {p : Place} (hlocate : m.locate path = .ok p)
    (hnone : m.lookUp p = none) (left : Bytes) (err : FileError) (rest : List (Option Fault)) :
    (load (m := StateM FaultyMachine) path).run ⟨m, some (.torn left err) :: rest⟩ =
      (.error (.file err), ⟨m.set p (some (.file left)), rest⟩) := by
  have hfree := Machine.locateFile_of_locate hlocate (by simp [hnone])
  have hwritten : (ensureExists (m := StateM FaultyMachine) path).run
        (FaultyMachine.mk m (some (.torn left err) :: rest)) =
      (.error err, .mk (m.set p (some (.file left))) rest) := by
    rw [ensureExists, run_bind (run_status _ _)]
    simp only [Machine.status_of_lookUp_none hlocate hnone]
    rw [run_writeFile, writeFile_torn hfree]
  rw [load, run_bind hwritten]
  rfl

theorem touchesOnly_of_save_error {err : FileError}
    (h : (save (m := StateM FaultyMachine) path links).run d = (.error err, e)) :
    d.machine.TouchesOnly e.machine (draftPath path) := by
  have htouched := WritesOnly.writeFile (draftPath path) (Table.write links) d
  rw [run_writeFile] at htouched
  cases hwrite : d.writeFile (draftPath path) (Table.write links) with
  | mk written d₁ =>
    rw [hwrite] at htouched
    rw [save, run_bind ((run_writeFile d _ _).trans hwrite)] at h
    cases written with
    | error err' =>
      cases h
      exact htouched
    | ok u =>
      rw [machine_of_rename_error h]
      exact htouched

theorem touchesOnly_of_create_error {f f' : LinkFile} {n : NewLink} {err : StoreError}
    (h : (create (m := StateM FaultyMachine) f n).run d = ((.error err, f'), e)) :
    d.machine.tick.TouchesOnly e.machine (draftPath f.path) := by
  have hnow : StateT.run (m := Id) Host.now d =
      (d.machine.time, { d with machine := d.machine.tick }) := rfl
  rw [create, run_bind hnow] at h
  rcases hcreate : f.shelf.create n d.machine.time with ⟨err' | link, shelf⟩
  · rw [hcreate] at h
    cases h
    exact .refl _ _
  · rw [hcreate] at h
    simp only at h
    cases hsave : (save (m := StateM FaultyMachine) f.path shelf.links).run
        { d with machine := d.machine.tick } with
    | mk saved d₁ =>
      rw [run_bind hsave] at h
      cases saved with
      | error err' =>
        cases h
        exact touchesOnly_of_save_error hsave
      | ok u => cases h

end LinkFile

namespace Program

variable (env : Environment)

theorem tracks_openLinks : Tracks IsError (openLinks (m := StateM FaultyMachine) env)
    (openLinks (m := StateM Machine) env) := by
  rw [openLinks, openLinks]
  cases baseDirectory env with
  | error err => exact .pure _
  | ok base =>
    refine .bind_ok (Settings.tracks_load base) (fun _ => rfl) (fun _ => rfl) (fun _ => ⟨_, rfl⟩)
      fun s => ?_
    exact .bind_ok (LinkFile.tracks_load _) (fun _ => rfl) (fun _ => rfl) (fun _ => ⟨_, rfl⟩)
      fun _ => .pure _

theorem tracks_search (user query : String) (offset : UInt64) (limit : Option UInt64)
    (count : Bool) :
    Tracks IsError (search (m := StateM FaultyMachine) env user query offset limit count)
      (search (m := StateM Machine) env user query offset limit count) := by
  refine .bind_ok (tracks_openLinks env) (fun _ => rfl) (fun _ => rfl) (fun _ => ⟨_, rfl⟩) fun _ => ?_
  cases count <;> exact .pure _

theorem tracks_add (n : NewLink) : Tracks IsError (add (m := StateM FaultyMachine) env n)
    (add (m := StateM Machine) env n) := by
  refine .bind_ok (tracks_openLinks env) (fun _ => rfl) (fun _ => rfl) (fun _ => ⟨_, rfl⟩) fun _ => ?_
  refine .bind (LinkFile.tracks_create _ n) (fun _ => .pure _) ?_
  rintro ⟨_, f⟩ ⟨err, rfl⟩ d
  exact ⟨_, rfl⟩

/-- A run that ends well does what it does where nothing goes wrong. -/
theorem tracks_run (args : List String) :
    Tracks (fun o => o.code ≠ 0) (run (m := StateM FaultyMachine) env args)
      (run (m := StateM Machine) env args) := by
  rw [run, run]
  cases Command.ofArguments args with
  | error r => exact .pure _
  | ok c =>
    refine .bind_ok (?_ : Tracks IsError (perform (m := StateM FaultyMachine) env c)
      (perform (m := StateM Machine) env c)) (fun _ => rfl) (fun _ => rfl) code_ofResult_error
      fun _ => .pure _
    cases c with
    | tokens query | parse query => exact .pure _
    | search user query offset limit count => exact tracks_search env user query offset limit count
    | add user url title tags collections =>
      rw [perform, perform]
      cases newLink user url title tags collections with
      | error err => exact .pure _
      | ok n => exact tracks_add env n

end Program
end LinkShelf
