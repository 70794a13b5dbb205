import LinkShelf.Program
import LinkShelf.Proofs.Host.Base
import LinkShelf.Proofs.Link.RoundTrip
import LinkShelf.Proofs.Link.Tags
import LinkShelf.Proofs.Settings.Initial
import LinkShelf.Proofs.Store.History
import LinkShelf.Proofs.Store.Ids

/-! Runs of the program, one after the other, on one base directory that was empty. The file of links
holds what the runs printed that added a link, and no other run changes that. -/
namespace LinkShelf
namespace NewLink

theorem durable_toLink {n : NewLink} (htags : ∀ t ∈ n.tags.getD [], Text.IsItem t)
    (htime : n.publishedAt = none) (id : UInt64) {now : Time.Instant}
    (hnow : 0 ≤ now.year ∧ now.year ≤ 9999) : (n.toLink id now).Durable where
  isItem t ht := htags t (mem_of_mem_distinctTags ht)
  zero_le_year := by simp only [toLink, htime, Option.getD_none, hnow]
  year_le := by simp only [toLink, htime, Option.getD_none, hnow]
  isInstant := by simp only [toLink, htime, Option.getD_none, now.isInstant]

/-- The link is made of these arguments as the one that follows `count` others. -/
def MakesNext (n : NewLink) (times : Nat → Time.Instant) (count : Nat) (l : Link) : Prop :=
  ∃ id i, UInt64.toNat id = count ∧ l = n.toLink id (times i)

theorem eq_of_makesNext {n : NewLink} {now : Time.Instant} {count : Nat} {l : Link}
    (h : n.MakesNext (fun _ => now) count l) : l = n.toLink (.ofNat count) now := by
  obtain ⟨id, -, rfl, rfl⟩ := h
  rw [UInt64.ofNat_toNat]

end NewLink

theorem Machine.run_mapM_cons {α β : Type} {f : α → StateM Machine β} {d d' e : Machine} {x : α}
    {xs : List α} {y : β} {ys : List β} (h : (f x).run d = (y, d'))
    (hrest : (xs.mapM f).run d' = (ys, e)) : ((x :: xs).mapM f).run d = (y :: ys, e) := by
  rw [List.mapM_cons, run_bind h, run_bind hrest]
  rfl

namespace Program

/-- What is in the base directory between two runs: the settings are the defaults, if they are
there, and so is the table of the links. -/
structure Keeps (times : Nat → Time.Instant) (d : Machine) (base : String) (here : Place)
    (links : List Link) : Prop where
  isBase : d.IsBase base here
  settings : d.lookUp (here ++ ["config.yaml"]) = none ∨
    d.lookUp (here ++ ["config.yaml"]) = some (.file ({} : Settings).bytes)
  table : d.lookUp (here ++ ["links.csv"]) = none ∧ links = [] ∨
    d.lookUp (here ++ ["links.csv"]) = some (.file (Table.write links)) ∧
      (joinPath base "links.csv").utf8ByteSize < 4096
  draft : d.lookUp (here ++ ["links.csv-tmp"]) ≠ some .directory
  durable : ∀ l ∈ links, l.Durable
  ids : links.map (·.id.toNat) = List.range links.length
  clock : d.clock = times
  years : ∀ i, 0 ≤ (times i).year ∧ (times i).year ≤ 9999

/-- Room for one more link: the paths are not too long, and not all ids are taken. -/
structure HasRoom (base : String) (links : List Link) : Prop where
  settings : (joinPath base "config.yaml").utf8ByteSize < 4096
  table : (joinPath base "links.csv").utf8ByteSize < 4096
  draft : (joinPath base "links.csv-tmp").utf8ByteSize < 4096
  ids : links.length < UInt64.size

section Keeps

variable {times : Nat → Time.Instant} {d e : Machine} {base : String} {here : Place}
  {links : List Link}

theorem lookUp_set_name {name other : String} (hne : other ≠ name) (n : Option Node) :
    (d.set (here ++ [name]) n).lookUp (here ++ [other]) = d.lookUp (here ++ [other]) :=
  Machine.lookUp_set_of_ne (by simpa using hne) n

theorem lookUp_set_name_self (name : String) (n : Option Node) :
    (d.set (here ++ [name]) n).lookUp (here ++ [name]) = n :=
  Machine.lookUp_set_self (by simp) n

theorem Keeps.tick (h : Keeps times d base here links) : Keeps times d.tick base here links where
  isBase := ⟨by simpa using h.isBase.leads, h.isBase.directory⟩
  settings := h.settings
  table := h.table
  draft := h.draft
  durable := h.durable
  ids := h.ids
  clock := h.clock
  years := h.years

theorem Keeps.set_draft (h : Keeps times d base here links) {n : Option Node}
    (hn : n ≠ some .directory) : Keeps times (d.set (here ++ ["links.csv-tmp"]) n) base here links where
  isBase := h.isBase.keep (Machine.keepsDirectories_set h.draft n)
  settings := by
    simpa only [lookUp_set_name (by decide : "config.yaml" ≠ "links.csv-tmp")] using h.settings
  table := by
    simpa only [lookUp_set_name (by decide : "links.csv" ≠ "links.csv-tmp")] using h.table
  draft := by rwa [lookUp_set_name_self]
  durable := h.durable
  ids := h.ids
  clock := h.clock
  years := h.years

theorem Keeps.set_settings (h : Keeps times d base here links) : Keeps times
    (d.set (here ++ ["config.yaml"]) (some (.file ({} : Settings).bytes))) base here links where
  isBase := by
    refine h.isBase.keep (Machine.keepsDirectories_set ?_ _)
    rcases h.settings with hnone | hfile <;> simp [*]
  settings := .inr (lookUp_set_name_self _ _)
  table := by simpa only [lookUp_set_name (by decide : "links.csv" ≠ "config.yaml")] using h.table
  draft := by
    simpa only [lookUp_set_name (by decide : "links.csv-tmp" ≠ "config.yaml")] using h.draft
  durable := h.durable
  ids := h.ids
  clock := h.clock
  years := h.years

theorem Keeps.set_table (h : Keeps times d base here links)
    (hfits : (joinPath base "links.csv").utf8ByteSize < 4096) {links' : List Link}
    (hdurable : ∀ l ∈ links', l.Durable)
    (hids : links'.map (·.id.toNat) = List.range links'.length) : Keeps times
    (d.set (here ++ ["links.csv"]) (some (.file (Table.write links')))) base here links' where
  isBase := by
    refine h.isBase.keep (Machine.keepsDirectories_set ?_ _)
    rcases h.table with ⟨hnone, -⟩ | ⟨hfile, -⟩ <;> simp [*]
  settings := by
    simpa only [lookUp_set_name (by decide : "config.yaml" ≠ "links.csv")] using h.settings
  table := .inr ⟨lookUp_set_name_self _ _, hfits⟩
  draft := by
    simpa only [lookUp_set_name (by decide : "links.csv-tmp" ≠ "links.csv")] using h.draft
  durable := hdurable
  ids := hids
  clock := h.clock
  years := h.years

theorem isFileName_links : Machine.IsFileName "links.csv" := by constructor <;> decide
theorem isFileName_draft : Machine.IsFileName "links.csv-tmp" := by constructor <;> decide

theorem locate_of_le (hbase : d.IsBase base here) {name : String} (hname : Machine.IsFileName name)
    (h : 4096 ≤ (joinPath base name).utf8ByteSize) :
    d.locate (joinPath base name) = .error .nameTooLong := by
  rw [Machine.locate_joinPath hbase hname, if_pos h]

theorem locate_of_lt (hbase : d.IsBase base here) {name : String} (hname : Machine.IsFileName name)
    (h : (joinPath base name).utf8ByteSize < 4096) :
    d.locate (joinPath base name) = .ok (here ++ [name]) := by
  rw [Machine.locate_joinPath hbase hname, if_neg (Nat.not_le.mpr h)]

theorem eq_of_locateFile (hbase : d.IsBase base here) {name : String}
    (hname : Machine.IsFileName name) {p : Place} (h : d.locateFile (joinPath base name) = .ok p) :
    p = here ++ [name] ∧ (joinPath base name).utf8ByteSize < 4096 ∧
      d.lookUp (here ++ [name]) ≠ some .directory := by
  obtain ⟨hlocate, hfree⟩ := Machine.locate_of_locateFile h
  rcases Nat.lt_or_ge (joinPath base name).utf8ByteSize 4096 with hshort | hlong
  · rw [locate_of_lt hbase hname hshort] at hlocate
    cases hlocate
    exact ⟨rfl, hshort, hfree⟩
  · rw [locate_of_le hbase hname hlong] at hlocate
    cases hlocate

theorem Keeps.load_settings (h : Keeps times d base here links) :
    ∃ r e, (Settings.load (m := StateM Machine) base).run d = (r, e) ∧ Keeps times e base here links ∧
      (r = .ok {} ∨ (∃ err, r = .error err) ∧ ¬ HasRoom base links) := by
  rw [Settings.run_load, Machine.makeDirectories_of_isBase h.isBase]
  simp only
  rcases Nat.lt_or_ge (Settings.filePath base).utf8ByteSize 4096 with hshort | hlong
  · have hlocate := locate_of_lt h.isBase Settings.isFileName hshort
    have hbytes := Settings.ofBytes_initial (Settings.filePath base)
    rcases h.settings with hnone | hfile
    · have hfree : d.locateFile (Settings.filePath base) = .ok (here ++ ["config.yaml"]) :=
        Machine.locateFile_of_locate hlocate (by simp [hnone])
      have hstatus : d.status (Settings.filePath base) = .error .notFound :=
        Machine.status_of_lookUp_none hlocate hnone
      have hread := Machine.readFile_set hfree ({} : Settings).bytes
      refine ⟨.ok {}, _, ?_, h.set_settings, .inl rfl⟩
      rw [Settings.run_ensureFile, hstatus]
      simp only [Machine.writeFile_of_locateFile hfree, Table.mapError_ok, hread, hbytes, if_true]
    · have hread : d.readFile (Settings.filePath base) = .ok ({} : Settings).bytes :=
        Machine.readFile_eq_ok.mpr ⟨_, hlocate, hfile⟩
      refine ⟨.ok {}, d, ?_, h, .inl rfl⟩
      rw [Settings.run_ensureFile, Machine.status_of_readFile hread]
      simp only [hread, hbytes, if_true]
  · have hlocate := locate_of_le h.isBase Settings.isFileName hlong
    have hstatus : d.status (Settings.filePath base) = .error .nameTooLong := by
      simp [Machine.status, Settings.filePath, hlocate]
    obtain ⟨err, hwrite⟩ : ∃ err,
        d.writeFile (Settings.filePath base) ({} : Settings).bytes = (.error err, d) := by
      simp [Machine.writeFile, Machine.locateFile, Settings.filePath, hlocate]
    refine ⟨.error (.unwritable err), d, ?_, h,
      .inr ⟨⟨_, rfl⟩, fun hroom => Nat.not_lt.mpr hlong hroom.settings⟩⟩
    rw [Settings.run_ensureFile, hstatus]
    simp only [hwrite]
    rfl

theorem Keeps.load_links (h : Keeps times d base here links) :
    ∃ r e, (LinkFile.load (m := StateM Machine) (joinPath base "links.csv")).run d = (r, e) ∧
      Keeps times e base here links ∧
      (r = .ok { path := joinPath base "links.csv", shelf := { links } } ∨
        (∃ err, r = .error err) ∧ ¬ HasRoom base links) := by
  rcases h.table with ⟨hnone, rfl⟩ | ⟨hfile, hshort⟩
  · rcases Nat.lt_or_ge (joinPath base "links.csv").utf8ByteSize 4096 with hshort | hlong
    · have hlocate := locate_of_lt h.isBase isFileName_links hshort
      exact ⟨_, _, LinkFile.load_of_none hlocate hnone, h.set_table hshort h.durable h.ids,
        .inl rfl⟩
    · have hlocate := locate_of_le h.isBase isFileName_links hlong
      have hstatus : d.status (joinPath base "links.csv") = .error .nameTooLong := by
        simp [Machine.status, hlocate]
      refine ⟨.error (.file .nameTooLong), d, ?_, h,
        .inr ⟨⟨_, rfl⟩, fun hroom => Nat.not_lt.mpr hlong hroom.table⟩⟩
      rw [LinkFile.run_load, LinkFile.run_ensureExists, hstatus]
  · have hread : d.readFile (joinPath base "links.csv") = .ok (Table.write links) :=
      Machine.readFile_eq_ok.mpr ⟨_, locate_of_lt h.isBase isFileName_links hshort, hfile⟩
    exact ⟨_, d, LinkFile.load_of_readFile hread (Table.read_write h.durable), h, .inl rfl⟩

theorem draftPath_joinPath (base : String) :
    LinkFile.draftPath (joinPath base "links.csv") = joinPath base "links.csv-tmp" := by
  have hlinks := isFileName_links.startsWith_slash
  have hdraft := isFileName_draft.startsWith_slash
  simp only [LinkFile.draftPath, joinPath, hlinks, hdraft, Bool.false_or]
  split
  · rfl
  split
  · exact String.append_assoc ..
  · exact String.append_assoc ..

theorem Keeps.locateFile_draft (h : Keeps times d base here links) (hroom : HasRoom base links) :
    d.locateFile (LinkFile.draftPath (joinPath base "links.csv")) = .ok (here ++ ["links.csv-tmp"]) := by
  rw [draftPath_joinPath]
  exact Machine.locateFile_of_locate (locate_of_lt h.isBase isFileName_draft hroom.draft) h.draft

theorem Keeps.locateFile_table (h : Keeps times d base here links) (hroom : HasRoom base links) :
    d.locateFile (joinPath base "links.csv") = .ok (here ++ ["links.csv"]) := by
  refine Machine.locateFile_of_locate (locate_of_lt h.isBase isFileName_links hroom.table) ?_
  rcases h.table with ⟨hnone, -⟩ | ⟨hfile, -⟩ <;> simp [*]

/-- A link that is made is kept behind the others, or nothing changes because there is no room. -/
theorem Keeps.create (h : Keeps times d base here links) {n : NewLink}
    (htags : ∀ t ∈ n.tags.getD [], Text.IsItem t) (htime : n.publishedAt = none) :
    ∃ r f e, (LinkFile.create (m := StateM Machine)
        { path := joinPath base "links.csv", shelf := { links } } n).run d = ((r, f), e) ∧
      ((∃ err, r = .error err) ∧ ¬ HasRoom base links ∧ Keeps times e base here links ∨
        ∃ link, r = .ok link ∧ n.MakesNext times links.length link ∧
          Keeps times e base here (links ++ [link])) := by
  rw [LinkFile.run_create]
  cases hid : Link.nextId? links with
  | none =>
    rw [Shelf.create_of_none rfl hid]
    exact ⟨_, _, _, rfl, .inl ⟨⟨_, rfl⟩,
      fun hroom => Link.nextId?_ne_none h.ids hroom.ids hid, h.tick⟩⟩
  | some id =>
    rw [Shelf.create_of_some rfl hid]
    simp only
    rcases LinkFile.save_cases d.tick (joinPath base "links.csv") (links ++ [n.toLink id d.time])
      with ⟨err, hdraft, hsave⟩ | ⟨err, p, hdraft, hpath, hsave⟩ | ⟨p, q, hdraft, hpath, hsave⟩
    · rw [hsave]
      refine ⟨_, _, _, rfl, .inl ⟨⟨_, rfl⟩, fun hroom => ?_, h.tick⟩⟩
      exact hdraft _ (h.tick.locateFile_draft hroom)
    · -- the draft stays behind, which no later run looks at
      rw [hsave]
      rw [draftPath_joinPath] at hdraft
      obtain ⟨rfl, -, -⟩ := eq_of_locateFile h.tick.isBase isFileName_draft hdraft
      refine ⟨_, _, _, rfl, .inl ⟨⟨_, rfl⟩, fun hroom => ?_, h.tick.set_draft (by simp)⟩⟩
      exact hpath _ (h.tick.locateFile_table hroom)
    · rw [hsave]
      rw [draftPath_joinPath] at hdraft
      obtain ⟨rfl, -, -⟩ := eq_of_locateFile h.tick.isBase isFileName_draft hdraft
      obtain ⟨rfl, hshort, -⟩ := eq_of_locateFile h.tick.isBase isFileName_links hpath
      have hnext := Link.toNat_nextId? h.ids hid
      have htold : d.time = times d.readings := congrFun h.clock d.readings
      have hnew := NewLink.durable_toLink htags htime id (h.years d.readings)
      rw [← htold] at hnew
      refine ⟨_, _, _, rfl, .inr ⟨_, rfl, ⟨id, d.readings, hnext, by rw [htold]⟩, ?_⟩⟩
      refine (h.tick.set_draft (by simp)).set_table hshort ?_ ?_
      · intro l hl
        rcases List.mem_append.mp hl with hl | hl
        · exact h.durable l hl
        · rw [List.mem_singleton.mp hl]
          exact hnew
      · simp only [List.map_append, h.ids, List.map_singleton, List.length_append,
          List.length_singleton, List.range_succ, NewLink.toLink, hnext]

end Keeps

/-- What a run prints of a link that it adds. -/
def shown (l : Link) : String := l.toJson.pretty ++ "\n"

theorem ofText?_shown {l : Link} (h : l.publishedAt.IsInstant) :
    Link.ofText? (shown l) = some l := by
  rw [shown, Link.ofText?_pretty, Link.told_eq_iff.mpr h]

def asksToAdd (args : List String) : Bool :=
  match Command.ofArguments args with
  | .ok (.add ..) => true
  | _ => false

def described? (args : List String) : Option NewLink :=
  match Command.ofArguments args with
  | .ok (.add user url title tags collections) =>
    (newLink user url title tags collections).toOption
  | _ => none

/-- What is printed by a run that adds a link and ends well. -/
def added? (args : List String) (o : Outcome) : Option String :=
  if asksToAdd args && o.code == 0 then some o.output else none

theorem code_of_added? {args : List String} {o : Outcome} {s : String}
    (h : added? args o = some s) : o.code = 0 := by
  refine Decidable.byContradiction fun hcode => ?_
  simp [added?, hcode] at h

section Runs

variable {env : Environment} {times : Nat → Time.Instant} {d : Machine} {base : String} {here : Place}
  {links : List Link}

theorem code_ofResult_error (e : Failure) : (Outcome.ofResult (.error e)).code ≠ 0 := by
  unfold Outcome.ofResult
  split <;> simp_all [Outcome.code]

theorem Keeps.openLinks (hbase : baseDirectory env = .ok base) (h : Keeps times d base here links) :
    ∃ r e, (openLinks (m := StateM Machine) env).run d = (r, e) ∧ Keeps times e base here links ∧
      (r = .ok ({}, { path := joinPath base "links.csv", shelf := { links } }) ∨
        (∃ err, r = .error err) ∧ ¬ HasRoom base links) := by
  obtain ⟨settings, d', hsettings, h', hdefault⟩ := h.load_settings
  rw [Program.openLinks, hbase]
  simp only
  rw [run_bind hsettings]
  rcases hdefault with rfl | ⟨⟨err, rfl⟩, hfull⟩
  · obtain ⟨file, e, hfile, h'', hlinks⟩ := h'.load_links
    have hpath : Settings.fullPath base {} = joinPath base "links.csv" := rfl
    simp only [hpath]
    rw [run_bind hfile]
    rcases hlinks with rfl | ⟨⟨err, rfl⟩, hfull⟩
    · exact ⟨_, e, rfl, h'', .inl rfl⟩
    · exact ⟨_, e, rfl, h'', .inr ⟨⟨_, rfl⟩, hfull⟩⟩
  · exact ⟨_, d', rfl, h', .inr ⟨⟨_, rfl⟩, hfull⟩⟩

theorem Keeps.search (hbase : baseDirectory env = .ok base) (h : Keeps times d base here links)
    (user query : String) (offset : UInt64) (limit : Option UInt64) (count : Bool) :
    ∃ r e, (search (m := StateM Machine) env user query offset limit count).run d = (r, e) ∧
      Keeps times e base here links := by
  obtain ⟨opened, e, hopen, h', -⟩ := h.openLinks hbase
  rw [Program.search, run_bind hopen]
  rcases opened with err | ⟨s, f⟩
  · exact ⟨_, e, rfl, h'⟩
  · cases count <;> exact ⟨_, e, rfl, h'⟩

theorem Keeps.add (hbase : baseDirectory env = .ok base) (h : Keeps times d base here links)
    {n : NewLink} (htags : ∀ t ∈ n.tags.getD [], Text.IsItem t) (htime : n.publishedAt = none) :
    ∃ r e, (add (m := StateM Machine) env n).run d = (r, e) ∧
      ((∃ err, r = .error err) ∧ ¬ HasRoom base links ∧ Keeps times e base here links ∨
        ∃ link, r = .ok (shown link) ∧ n.MakesNext times links.length link ∧
          Keeps times e base here (links ++ [link])) := by
  obtain ⟨opened, d', hopen, h', hlinks⟩ := h.openLinks hbase
  rw [Program.add, run_bind hopen]
  rcases hlinks with rfl | ⟨⟨err, rfl⟩, hfull⟩
  · obtain ⟨r, f', e, hcreate, hkept⟩ := h'.create htags htime
    simp only
    rw [run_bind hcreate]
    refine ⟨_, e, rfl, ?_⟩
    rcases hkept with ⟨⟨err, rfl⟩, hsame⟩ | ⟨link, rfl, hmade, hmore⟩
    · exact .inl ⟨⟨_, rfl⟩, hsame⟩
    · exact .inr ⟨link, rfl, hmade, hmore⟩
  · exact ⟨_, d', rfl, .inl ⟨⟨_, rfl⟩, hfull, h'⟩⟩

theorem newLink_ok {user url : String} {title tags collections : Option String} {n : NewLink}
    (h : newLink user url title tags collections = .ok n) :
    (∀ t ∈ n.tags.getD [], Text.IsItem t) ∧ n.publishedAt = none := by
  simp only [newLink, bind, Except.bind] at h
  split at h
  · cases h
  split at h
  · cases h
  cases h
  refine ⟨?_, rfl⟩
  cases tags with
  | none => simp
  | some ts =>
    intro t ht
    exact Text.isItem_of_mem_items ht

/-- A run adds the link that it prints, or leaves the links as they are. If the arguments describe a
link, only a lack of room keeps it from being added. -/
theorem Keeps.run (hbase : baseDirectory env = .ok base) (h : Keeps times d base here links)
    (args : List String) :
    ∃ o e, (run (m := StateM Machine) env args).run d = (o, e) ∧
      (added? args o = none ∧ (described? args = none ∨ ¬ HasRoom base links) ∧
          Keeps times e base here links ∨
        ∃ n link, described? args = some n ∧ n.MakesNext times links.length link ∧
          added? args o = some (shown link) ∧ Keeps times e base here (links ++ [link])) := by
  rw [Program.run]
  cases hcommand : Command.ofArguments args with
  | error refusal =>
    refine ⟨_, d, rfl, .inl ⟨?_, .inl ?_, h⟩⟩
    · simp [added?, asksToAdd, hcommand]
    · simp [described?, hcommand]
  | ok command =>
    simp only
    cases command with
    | tokens query | parse query =>
      refine ⟨_, d, rfl, .inl ⟨?_, .inl ?_, h⟩⟩
      · simp [added?, asksToAdd, hcommand]
      · simp [described?, hcommand]
    | search user query offset limit count =>
      obtain ⟨r, e, hrun, h'⟩ := h.search hbase user query offset limit count
      rw [perform, run_bind hrun]
      refine ⟨_, e, rfl, .inl ⟨?_, .inl ?_, h'⟩⟩
      · simp [added?, asksToAdd, hcommand]
      · simp [described?, hcommand]
    | add user url title tags collections =>
      have hasks : asksToAdd args = true := by rw [asksToAdd, hcommand]
      rw [perform]
      cases hnew : newLink user url title tags collections with
      | error err =>
        refine ⟨_, d, rfl, .inl ⟨?_, .inl ?_, h⟩⟩
        · simp [added?, hasks, code_ofResult_error]
        · simp [described?, hcommand, hnew, Except.toOption]
      | ok n =>
        obtain ⟨htags, htime⟩ := newLink_ok hnew
        obtain ⟨r, e, hrun, hkept⟩ := h.add hbase htags htime
        simp only
        rw [run_bind hrun]
        refine ⟨_, e, rfl, ?_⟩
        rcases hkept with ⟨⟨err, rfl⟩, hfull, hsame⟩ | ⟨link, rfl, hmade, hmore⟩
        · exact .inl ⟨by simp [added?, hasks, code_ofResult_error], .inr hfull, hsame⟩
        · exact .inr ⟨n, link, by simp [described?, hcommand, hnew, Except.toOption], hmade,
            by simp [added?, hasks, Outcome.ofResult, Outcome.code, Outcome.output], hmore⟩

/-- A run adds a link if the arguments describe one and there is room for it. -/
theorem Keeps.run_adds (hbase : baseDirectory env = .ok base) (h : Keeps times d base here links)
    {args : List String} {n : NewLink} (hn : described? args = some n)
    (hroom : HasRoom base links) :
    ∃ o e link, (Program.run (m := StateM Machine) env args).run d = (o, e) ∧
      n.MakesNext times links.length link ∧ added? args o = some (shown link) ∧
      Keeps times e base here (links ++ [link]) := by
  obtain ⟨o, e, hrun, hkept⟩ := h.run hbase args
  rcases hkept with ⟨-, hnone | hfull, -⟩ | ⟨n', link, hn', hmade, hadded, hmore⟩
  · rw [hn] at hnone
    cases hnone
  · exact absurd hroom hfull
  · obtain rfl : n = n' := Option.some.inj (hn.symm.trans hn')
    exact ⟨o, e, link, hrun, hmade, hadded, hmore⟩

theorem Keeps.run_idle (hbase : baseDirectory env = .ok base) (h : Keeps times d base here links)
    {args : List String} (hnone : described? args = none) :
    ∃ o e, (Program.run (m := StateM Machine) env args).run d = (o, e) ∧ added? args o = none ∧
      Keeps times e base here links := by
  obtain ⟨o, e, hrun, hkept⟩ := h.run hbase args
  rcases hkept with ⟨hidle, -, hsame⟩ | ⟨n, link, hn, -⟩
  · exact ⟨o, e, hrun, hidle, hsame⟩
  · rw [hnone] at hn
    cases hn

def printed (runs : List (List String)) (outcomes : List Outcome) : List String :=
  (runs.zip outcomes).filterMap fun r => added? r.1 r.2

theorem Keeps.runs (hbase : baseDirectory env = .ok base) (h : Keeps times d base here links)
    (runs : List (List String)) :
    ∃ outcomes e new,
      (runs.mapM (Program.run (m := StateM Machine) env)).run d = (outcomes, e) ∧
      printed runs outcomes = new.map shown ∧ Keeps times e base here (links ++ new) := by
  -- by induction on the runs, whatever links are there before them
  induction runs generalizing d links with
  | nil => exact ⟨[], d, [], rfl, rfl, by simpa using h⟩
  | cons args runs ih =>
    obtain ⟨o, d', hrun, hkept⟩ := h.run hbase args
    rcases hkept with ⟨hnone, -, h'⟩ | ⟨-, link, -, -, hsome, h'⟩
    · obtain ⟨outcomes, e, new, hruns, hprinted, h''⟩ := ih h'
      refine ⟨_, e, new, Machine.run_mapM_cons hrun hruns, ?_, h''⟩
      rw [← hprinted]
      simp [printed, hnone]
    · obtain ⟨outcomes, e, new, hruns, hprinted, h''⟩ := ih h'
      refine ⟨_, e, link :: new, Machine.run_mapM_cons hrun hruns, ?_, by simpa using h''⟩
      rw [List.map_cons, ← hprinted]
      simp [printed, hsome]

structure IsEmptyBase (d : Machine) (base : String) (here : Place) : Prop
    extends d.IsBase base here where
  empty : ∀ name, d.lookUp (here ++ [name]) = none

def Holds (d : Machine) (base : String) (here : Place) (links : List Link) : Prop :=
  d.lookUp (here ++ ["links.csv"]) = none ∧ links = [] ∨
    (LinkFile.load (m := StateM Machine) (joinPath base "links.csv")).run d =
      (.ok { path := joinPath base "links.csv", shelf := { links } }, d)

theorem Keeps.holds (h : Keeps times d base here links) : Holds d base here links := by
  rcases h.table with hnone | ⟨hfile, hshort⟩
  · exact .inl hnone
  · have hread : d.readFile (joinPath base "links.csv") = .ok (Table.write links) :=
      Machine.readFile_eq_ok.mpr ⟨_, locate_of_lt h.isBase isFileName_links hshort, hfile⟩
    exact .inr (LinkFile.load_of_readFile hread (Table.read_write h.durable))

theorem IsEmptyBase.keeps (h : IsEmptyBase d base here)
    (hclock : ∀ i, 0 ≤ (d.clock i).year ∧ (d.clock i).year ≤ 9999) :
    Keeps d.clock d base here [] where
  isBase := h.toIsBase
  settings := .inl (h.empty "config.yaml")
  table := .inl ⟨h.empty "links.csv", rfl⟩
  draft := by simp [h.empty]
  durable := by simp
  ids := rfl
  clock := rfl
  years := hclock

/-- After any runs on a base directory that was empty, the file of links holds the links that were
printed by the runs that added one, in that order, with ids counted from 0. A further run that adds
no link leaves them as they are. -/
theorem runs_keep_added_links (hbase : baseDirectory env = .ok base)
    (hempty : IsEmptyBase d base here)
    (hclock : ∀ i, 0 ≤ (d.clock i).year ∧ (d.clock i).year ≤ 9999) (runs : List (List String)) :
    ∃ outcomes e links,
      (runs.mapM (Program.run (m := StateM Machine) env)).run d = (outcomes, e) ∧
      Holds e base here links ∧
      printed runs outcomes = links.map shown ∧
      (printed runs outcomes).map Link.ofText? = links.map some ∧
      links.map (·.id.toNat) = List.range links.length ∧
      ∀ args o e', (Program.run (m := StateM Machine) env args).run e = (o, e') →
        added? args o = none → Holds e' base here links := by
  obtain ⟨outcomes, e, links, hruns, hprinted, hkept⟩ := (hempty.keeps hclock).runs hbase runs
  rw [List.nil_append] at hkept
  have hread : (links.map shown).map Link.ofText? = links.map some := by
    rw [List.map_map]
    refine List.map_congr_left fun l hl => ?_
    rw [Function.comp_apply, ofText?_shown (hkept.durable l hl).isInstant]
  refine ⟨outcomes, e, links, hruns, hkept.holds, hprinted, ?_, hkept.ids, ?_⟩
  · rw [hprinted, hread]
  intro args o e' hrun hnone
  obtain ⟨o', d', hrun', hcases⟩ := hkept.run hbase args
  rw [hrun] at hrun'
  obtain ⟨rfl, rfl⟩ := Prod.mk.inj hrun'
  rcases hcases with ⟨-, -, hsame⟩ | ⟨-, link, -, -, hsome, -⟩
  · exact hsame.holds
  · rw [hnone] at hsome
    cases hsome

/-- Two links are added, with a search and a refusal between them. -/
def fewRuns : List (List String) :=
  [["add", "-u", "ann", "--url", "https://a.org/", "--tags", "a,A, b"],
    ["search", "-u", "ann", "#a"],
    ["add", "-u", "ann"],
    ["add", "-u", "ben", "--url", "https://b.org/x", "-t", "\"x\", y"]]

def fewLinks : List Link :=
  [{ id := 0, userId := "ann", title := "", url := "https://a.org/", tags := ["a", "b"]
     collections := [], publishedAt := LinkFile.leapSecond },
    { id := 1, userId := "ben", title := "\"x\", y", url := "https://b.org/x", tags := []
      collections := [], publishedAt := LinkFile.leapSecond }]

theorem oneDirectory_isEmptyBase : IsEmptyBase LinkFile.oneDirectory "shelf" ["shelf"] where
  leads := .inr rfl
  directory := rfl
  empty name := by simp [Machine.lookUp, LinkFile.oneDirectory]

theorem oneDirectory_years (i : Nat) : 0 ≤ (LinkFile.oneDirectory.clock i).year ∧
    (LinkFile.oneDirectory.clock i).year ≤ 9999 :=
  ⟨LinkFile.awkward_durable.zero_le_year, LinkFile.awkward_durable.year_le⟩

theorem run_fewRuns :
    ∃ first second third fourth e,
      (fewRuns.mapM (Program.run (m := StateM Machine) { basePath := some "shelf" })).run
        LinkFile.oneDirectory = ([first, second, third, fourth], e) ∧
      first.code = 0 ∧ third.code = 2 ∧ fourth.code = 0 ∧
      printed fewRuns [first, second, third, fourth] = fewLinks.map shown := by
  have hbase : baseDirectory { basePath := some "shelf" } = .ok "shelf" := rfl
  have hroom : HasRoom "shelf" [] := by constructor <;> decide +kernel
  have hann : described? ["add", "-u", "ann", "--url", "https://a.org/", "--tags", "a,A, b"] =
      some { userId := "ann", url := "https://a.org/", tags := some ["a", "A", "b"] } := by
    decide +kernel
  have hben : described? ["add", "-u", "ben", "--url", "https://b.org/x", "-t", "\"x\", y"] =
      some { userId := "ben", url := "https://b.org/x", title := some "\"x\", y" } := by
    decide +kernel
  obtain ⟨first, d₁, a, hfirst, hmade, hadded, h₁⟩ :=
    (oneDirectory_isEmptyBase.keeps oneDirectory_years).run_adds hbase hann hroom
  obtain rfl : a = fewLinks[0] := (NewLink.eq_of_makesNext hmade).trans (by decide +kernel)
  have hsearch : described? ["search", "-u", "ann", "#a"] = none := by decide +kernel
  have hpartial : described? ["add", "-u", "ann"] = none := by decide +kernel
  obtain ⟨second, d₂, hsecond, hnone, h₂⟩ := h₁.run_idle hbase hsearch
  obtain ⟨third, d₃, hthird, hnone', h₃⟩ := h₂.run_idle hbase hpartial
  obtain ⟨fourth, e, b, hfourth, hmade', hadded', -⟩ :=
    h₃.run_adds hbase hben ⟨hroom.settings, hroom.table, hroom.draft, by decide⟩
  obtain rfl : b = fewLinks[1] := (NewLink.eq_of_makesNext hmade').trans (by decide +kernel)
  refine ⟨first, second, third, fourth, e, ?_, code_of_added? hadded, ?_, code_of_added? hadded', ?_⟩
  · exact Machine.run_mapM_cons hfirst (Machine.run_mapM_cons hsecond
      (Machine.run_mapM_cons hthird (Machine.run_mapM_cons hfourth rfl)))
  · have hmissing : Command.ofArguments ["add", "-u", "ann"] = .error (.missing "url") := rfl
    rw [Program.run, hmissing] at hthird
    cases hthird
    rfl
  · simp [printed, fewRuns, hadded, hnone, hnone', hadded', fewLinks]

theorem runs_keep_added_links_in_shelf :
    baseDirectory { basePath := some "shelf" } = .ok "shelf" ∧
    IsEmptyBase LinkFile.oneDirectory "shelf" ["shelf"] ∧
    (∀ i, 0 ≤ (LinkFile.oneDirectory.clock i).year ∧
      (LinkFile.oneDirectory.clock i).year ≤ 9999) ∧
    ∃ first second third fourth e,
      (fewRuns.mapM (Program.run (m := StateM Machine) { basePath := some "shelf" })).run
        LinkFile.oneDirectory = ([first, second, third, fourth], e) ∧
      first.code = 0 ∧ third.code = 2 ∧ fourth.code = 0 ∧
      printed fewRuns [first, second, third, fourth] = fewLinks.map shown ∧
      (fewLinks.map shown).map Link.ofText? = fewLinks.map some ∧
      Holds e "shelf" ["shelf"] fewLinks ∧
      ∀ args o e', (Program.run (m := StateM Machine) { basePath := some "shelf" } args).run e =
        (o, e') → added? args o = none → Holds e' "shelf" ["shelf"] fewLinks := by
  obtain ⟨first, second, third, fourth, e, hruns, hann, hrefused, hben, hprinted⟩ := run_fewRuns
  have hbase : baseDirectory { basePath := some "shelf" } = .ok "shelf" := rfl
  obtain ⟨outcomes, e', links, hruns', hholds, -, hread, -, hlater⟩ :=
    runs_keep_added_links hbase oneDirectory_isEmptyBase oneDirectory_years fewRuns
  rw [hruns] at hruns'
  obtain ⟨rfl, rfl⟩ := Prod.mk.inj hruns'
  have hshown : (fewLinks.map shown).map Link.ofText? = fewLinks.map some := by
    have hinstant : ∀ l ∈ fewLinks, l.publishedAt.IsInstant := by decide
    rw [List.map_map]
    refine List.map_congr_left fun l hl => ?_
    rw [Function.comp_apply, ofText?_shown (hinstant l hl)]
  rw [hprinted, hshown] at hread
  obtain rfl : fewLinks = links := (List.map_inj_right fun _ _ => Option.some.inj).mp hread
  exact ⟨hbase, oneDirectory_isEmptyBase, oneDirectory_years, first, second, third, fourth, e, hruns,
    hann, hrefused, hben, hprinted, hshown, hholds, hlater⟩

end Runs

end Program
end LinkShelf
