import LinkShelf.Proofs.Program.Faulty

/-! Adding a link, wherever the settings keep the links, whatever is there and whatever goes wrong. The
run prints a link and the file holds it behind those that it held, or no file is changed but that of the
settings and the draft, and at most a file of links is made where none was. -/
namespace LinkShelf

open FaultyMachine

namespace LinkFile

theorem contentAt?_of_create {f f' : LinkFile} {d e : Machine} {p : Place} {bs : Bytes} {n : NewLink}
    {link : Link} (hpath : d.locate f.path = .ok p) (hfile : d.lookUp p = some (.file bs))
    (h : (create (m := StateM Machine) f n).run d = ((.ok link, f'), e)) :
    e.contentAt? p = some (Table.write (f.shelf.links ++ [link])) := by
  have hfree : d.tick.locateFile f.path = .ok p := by
    rw [Machine.locateFile_tick]
    exact Machine.locateFile_of_locate hpath (by simp [hfile])
  obtain ⟨hshelf, hsave⟩ := create_ok h
  obtain ⟨-, -, -, hlinks⟩ := Shelf.create_ok hshelf
  rw [hlinks] at hsave
  rcases save_cases d.tick f.path (f.shelf.links ++ [link]) with ⟨_, -, hrun⟩ | ⟨_, _, -, -, hrun⟩ |
    ⟨_, q, -, hq, hrun⟩ <;> rw [hrun] at hsave <;> cases hsave
  rw [hfree] at hq
  cases hq
  exact Machine.contentAt?_set_self (Machine.ne_nil_of_lookUp (d := d) (by simp [hfile])) _

end LinkFile

/-- The links that the file at a place holds: none if no file is there. -/
def Machine.HoldsLinks (d : Machine) (p : Place) (links : List Link) : Prop :=
  d.contentAt? p = none ∧ links = [] ∨
    ∃ bs, d.contentAt? p = some bs ∧ Table.read bs = .ok links

namespace Outcome

/-- The arguments are turned down before any file is looked at. -/
def IsTurnedDown : Outcome → Prop
  | refused _ => True
  | failed (.url _ _) => True
  | failed (.collection _) => True
  | _ => False

def isRequest : Outcome → Bool
  | refused r => r.isRequest
  | _ => false

end Outcome

namespace Program

section Places

variable (env : Environment) (d : Machine)

/-- Where the settings are when their directory is made. -/
def settingsPlace? : Option Place :=
  match baseDirectory env with
  | .error _ => none
  | .ok base => ((d.makeDirectories base).2.locate (Settings.filePath base)).toOption

/-- The path at which the settings keep the links, and the machine when they are loaded. -/
def linksPath? : Option (String × Machine) :=
  match baseDirectory env with
  | .error _ => none
  | .ok base =>
    match (Settings.load (m := StateM Machine) base).run d with
    | (.error _, _) => none
    | (.ok s, e) => some (s.fullPath base, e)

def linksPlace? : Option Place :=
  (linksPath? env d).bind fun r => (r.2.locate r.1).toOption

def draftPlace? : Option Place :=
  (linksPath? env d).bind fun r => (r.2.locate (LinkFile.draftPath r.1)).toOption

end Places

variable {env : Environment}

section Machine

variable {d e : Machine} {base : String}

theorem linksPath?_eq {s : Settings} (hbase : baseDirectory env = .ok base)
    (h : (Settings.load (m := StateM Machine) base).run d = (.ok s, e)) :
    linksPath? env d = some (s.fullPath base, e) := by
  simp only [linksPath?, hbase, h]

theorem linksPlace?_eq {path : String} {p : Place} (hpath : linksPath? env d = some (path, e))
    (hp : e.locate path = .ok p) : linksPlace? env d = some p := by
  simp [linksPlace?, hpath, hp, Except.toOption]

theorem draftPlace?_eq {path : String} {p : Place} (hpath : linksPath? env d = some (path, e))
    (hp : e.locate (LinkFile.draftPath path) = .ok p) : draftPlace? env d = some p := by
  simp [draftPlace?, hpath, hp, Except.toOption]

theorem toOption_eq_some {ε α : Type} {r : Except ε α} {a : α} :
    r.toOption = some a ↔ r = .ok a := by
  cases r <;> simp [Except.toOption]

theorem draftPlace?_ne {p : Place} (h : linksPlace? env d = some p) : draftPlace? env d ≠ some p := by
  intro hdraft
  obtain ⟨⟨path, e⟩, hpath, hp⟩ := Option.bind_eq_some_iff.mp h
  rw [draftPlace?, hpath, Option.bind_some] at hdraft
  exact Machine.locate_append_ne (by decide) (by decide) (toOption_eq_some.mp hp)
    (toOption_eq_some.mp hdraft) rfl

theorem locate_ne_of_settingsPlace? (hbase : baseDirectory env = .ok base) {p : Place}
    (hp : settingsPlace? env d ≠ some p) :
    (d.makeDirectories base).2.locate (Settings.filePath base) ≠ .ok p := by
  intro heq
  simp [settingsPlace?, hbase, heq, Except.toOption] at hp

theorem contentAt?_of_load_settings {r : Except SettingsError Settings}
    (hbase : baseDirectory env = .ok base)
    (h : (Settings.load (m := StateM Machine) base).run d = (r, e)) {p : Place}
    (hp : settingsPlace? env d ≠ some p) : e.contentAt? p = d.contentAt? p := by
  have hwhole : ¬ (FaultyMachine.mk d []).IsFaulty := by simp [IsFaulty]
  obtain ⟨e', hrun, rfl⟩ := (Settings.tracks_load base).run_of_not_faulty hwhole h
  exact Settings.contentAt?_of_load hrun (locate_ne_of_settingsPlace? hbase hp)

end Machine

variable {d e : FaultyMachine}

/-- Where opening the links ends: at the base directory, at the settings, or at the links. -/
theorem openLinks_cases {r : Except Failure (Settings × LinkFile)}
    (h : (openLinks (m := StateM FaultyMachine) env).run d = (r, e)) :
    r = .error .noHome ∧ e = d ∨ ∃ base, baseDirectory env = .ok base ∧
      ((∃ err, (Settings.load (m := StateM FaultyMachine) base).run d = (.error err, e) ∧
          r = .error (.settings err)) ∨
        ∃ s d₁, (Settings.load (m := StateM FaultyMachine) base).run d = (.ok s, d₁) ∧
          ((∃ err, (LinkFile.load (m := StateM FaultyMachine) (s.fullPath base)).run d₁ =
              (.error err, e) ∧ r = .error (.links err)) ∨
            ∃ f, (LinkFile.load (m := StateM FaultyMachine) (s.fullPath base)).run d₁ = (.ok f, e) ∧
              r = .ok (s, f))) := by
  rw [openLinks] at h
  cases hbase : baseDirectory env with
  | error err =>
    have herr : err = .noHome := by
      unfold baseDirectory at hbase
      split at hbase <;> cases hbase
      rfl
    rw [hbase] at h
    cases h
    exact .inl ⟨by rw [herr], rfl⟩
  | ok base =>
    refine .inr ⟨base, rfl, ?_⟩
    rw [hbase] at h
    simp only at h
    cases hsettings : (Settings.load (m := StateM FaultyMachine) base).run d with
    | mk r₁ d₁ =>
      rw [run_bind hsettings] at h
      rcases r₁ with err | s
      · cases h
        exact .inl ⟨err, rfl, rfl⟩
      simp only at h
      cases hload : (LinkFile.load (m := StateM FaultyMachine) (s.fullPath base)).run d₁ with
      | mk r₂ d₂ =>
        rw [run_bind hload] at h
        rcases r₂ with err | f <;> cases h
        · exact .inr ⟨s, d₁, rfl, .inl ⟨err, hload, rfl⟩⟩
        · exact .inr ⟨s, d₁, rfl, .inr ⟨f, hload, rfl⟩⟩

theorem linksPath?_of_load {base : String} {s : Settings} (hbase : baseDirectory env = .ok base)
    (h : (Settings.load (m := StateM FaultyMachine) base).run d = (.ok s, e)) :
    linksPath? env d.machine = some (s.fullPath base, e.machine) ∧ e.faults <:+ d.faults := by
  have htracks := Settings.tracks_load base d
  rw [h] at htracks
  rcases htracks with ⟨hsame, hfaults⟩ | ⟨⟨_, herr⟩, -⟩
  · exact ⟨linksPath?_eq hbase hsame.symm, hfaults⟩
  · cases herr

/-- Opening the links may make a file where they are to be. It touches no other but that of the
settings. -/
theorem openLinks_changes {r : Except Failure (Settings × LinkFile)}
    (h : (openLinks (m := StateM FaultyMachine) env).run d = (r, e)) {p : Place}
    (hp : settingsPlace? env d.machine ≠ some p) :
    e.machine.contentAt? p = d.machine.contentAt? p ∨
    linksPlace? env d.machine = some p ∧ d.machine.contentAt? p = none ∧
      ∃ bs, e.machine.contentAt? p = some bs ∧ (bs = Table.write [] ∨
        ∃ err, some (.torn bs err) ∈ d.faults ∧ r = .error (.links (.file err))) := by
  rcases openLinks_cases h with
    ⟨-, rfl⟩ | ⟨base, hbase, ⟨err, hsettings, -⟩ | ⟨s, d₁, hsettings, hlinks⟩⟩
  · exact .inl rfl
  · exact .inl (Settings.contentAt?_of_load hsettings (locate_ne_of_settingsPlace? hbase hp))
  · obtain ⟨hpath, hfaults⟩ := linksPath?_of_load hbase hsettings
    rw [← Settings.contentAt?_of_load hsettings (locate_ne_of_settingsPlace? hbase hp)]
    obtain ⟨r₂, hload, hresult⟩ : ∃ r₂, (LinkFile.load (m := StateM FaultyMachine)
        (s.fullPath base)).run d₁ = (r₂, e) ∧ ∀ err, r₂ = .error err → r = .error (.links err) := by
      rcases hlinks with ⟨err, hload, rfl⟩ | ⟨f, hload, rfl⟩
      · exact ⟨_, hload, fun err' herr => by rw [Except.error.inj herr]⟩
      · exact ⟨_, hload, nofun⟩
    rcases LinkFile.load_changes hload with hsame | ⟨q, bs, hlocate, hnone, hmade, hbs⟩
    · exact .inl (by rw [hsame])
    by_cases hpq : p = q
    · subst hpq
      have hroot : p ≠ [] := Machine.ne_nil_of_lookUp (d := d₁.machine) (by simp [hnone])
      refine .inr ⟨linksPlace?_eq hpath hlocate, Machine.contentAt?_of_none hnone, bs, ?_,
        hbs.imp_right ?_⟩
      · rw [hmade, Machine.contentAt?_set_self hroot]
      · rintro ⟨err, hfault, herr⟩
        exact ⟨err, hfaults.subset hfault, hresult _ herr⟩
    · exact .inl (by rw [hmade, Machine.contentAt?_set_of_ne hpq])

theorem openLinks_late {err : Failure}
    (h : (openLinks (m := StateM FaultyMachine) env).run d = (.error err, e)) :
    ¬ (Outcome.ofResult (.error err)).IsTurnedDown := by
  rcases openLinks_cases h with
    ⟨herr, -⟩ | ⟨_, -, ⟨_, -, herr⟩ | ⟨_, _, -, ⟨_, -, herr⟩ | ⟨_, -, herr⟩⟩⟩ <;>
    cases herr <;> exact id

theorem openLinks_ok {s : Settings} {f : LinkFile}
    (h : (openLinks (m := StateM FaultyMachine) env).run d = (.ok (s, f), e)) :
    (∃ d₁, linksPath? env d.machine = some (f.path, d₁) ∧ e.machine.KeepsDirectories d₁) ∧
    ∃ p bs, linksPlace? env d.machine = some p ∧ e.machine.locate f.path = .ok p ∧
      e.machine.lookUp p = some (.file bs) ∧
      (settingsPlace? env d.machine ≠ some p → d.machine.HoldsLinks p f.shelf.links) := by
  rcases openLinks_cases h with ⟨herr, -⟩ | ⟨base, hbase, ⟨_, -, herr⟩ |
    ⟨s, d₁, hsettings, ⟨_, -, herr⟩ | ⟨f', hload, herr⟩⟩⟩ <;> cases herr
  obtain ⟨hpath, -⟩ := linksPath?_of_load hbase hsettings
  have hspared := fun p hp => Settings.contentAt?_of_load (q := p) hsettings
    (locate_ne_of_settingsPlace? hbase hp)
  have hfine := (LinkFile.tracks_load _).run_of_not_failed hload (by rintro ⟨_, ⟨⟩⟩)
  rcases LinkFile.load_cases d₁.machine (s.fullPath base) with ⟨_, hrun⟩ |
    ⟨p, bs, links, hlocate, hfile, hlinks, hrun⟩ | ⟨p, hlocate, hnone, hrun⟩ <;>
    rw [hrun] at hfine <;> obtain ⟨hf, he⟩ := Prod.mk.inj hfine <;> cases hf
  · rw [← he]
    refine ⟨⟨_, hpath, fun _ h => h⟩, p, bs, linksPlace?_eq hpath hlocate, hlocate, hfile,
      fun hp => .inr ⟨bs, ?_, hlinks⟩⟩
    rw [← hspared p hp]
    exact Machine.contentAt?_eq_some.mpr hfile
  · have hfree : d₁.machine.lookUp p ≠ some .directory := by simp [hnone]
    rw [← he]
    refine ⟨⟨_, hpath, Machine.keepsDirectories_of_set hfree (by simp)⟩, p, _,
      linksPlace?_eq hpath hlocate, (Machine.keepsDirectories_set hfree _).locate hlocate,
      Machine.lookUp_set_self (Machine.ne_nil_of_lookUp hfree) _, fun hp => .inl ⟨?_, rfl⟩⟩
    rw [← hspared p hp, Machine.contentAt?_of_none hnone]

/-- Each file but that of the settings and the draft holds what it held. Where the links are to be and
no file was, there may be an empty table, or what was left of it when it could not be written. -/
def SparesFiles (env : Environment) (d e : FaultyMachine) (o : Outcome) : Prop :=
  ∀ p, settingsPlace? env d.machine ≠ some p → draftPlace? env d.machine ≠ some p →
    e.machine.contentAt? p = d.machine.contentAt? p ∨
    linksPlace? env d.machine = some p ∧ d.machine.contentAt? p = none ∧
      ∃ bs, e.machine.contentAt? p = some bs ∧ (bs = Table.write [] ∨
        ∃ err, some (.torn bs err) ∈ d.faults ∧ o = .failed (.links (.file err)))

/-- Where adding a link ends: at the links that cannot be opened, or at the link itself. -/
theorem add_cases {n : NewLink} {r : Except Failure String}
    (h : (add (m := StateM FaultyMachine) env n).run d = (r, e)) :
    (∃ err, (openLinks (m := StateM FaultyMachine) env).run d = (.error err, e) ∧ r = .error err) ∨
    ∃ s f made f' d₁, (openLinks (m := StateM FaultyMachine) env).run d = (.ok (s, f), d₁) ∧
      (LinkFile.create (m := StateM FaultyMachine) f n).run d₁ = ((made, f'), e) ∧
      r = (made.map shown).mapError .store := by
  rw [add] at h
  cases hopen : (openLinks (m := StateM FaultyMachine) env).run d with
  | mk opened d₁ =>
    rw [run_bind hopen] at h
    rcases opened with err | ⟨s, f⟩
    · cases h
      exact .inl ⟨err, rfl, rfl⟩
    simp only at h
    cases hcreate : (LinkFile.create (m := StateM FaultyMachine) f n).run d₁ with
    | mk made e' =>
      rw [run_bind hcreate] at h
      cases h
      exact .inr ⟨s, f, made.1, made.2, d₁, rfl, hcreate, rfl⟩

theorem add_ok {n : NewLink} {output : String} (htime : n.publishedAt = none)
    (h : (add (m := StateM FaultyMachine) env n).run d = (.ok output, e)) :
    ∃ link links p, output = shown link ∧ link.publishedAt.IsInstant ∧
      linksPlace? env d.machine = some p ∧
      (settingsPlace? env d.machine ≠ some p → d.machine.HoldsLinks p links) ∧
      e.machine.contentAt? p = some (Table.write (links ++ [link])) := by
  rcases add_cases h with ⟨_, -, herr⟩ | ⟨s, f, err | link, f', d₁, hopen, hcreate, hmade⟩
  · cases herr
  · cases hmade
  · cases hmade
    obtain ⟨-, p, bs, hplace, hlocate, hfile, hheld⟩ := openLinks_ok hopen
    have hfine := (LinkFile.tracks_create f n).run_of_not_failed hcreate (by rintro ⟨_, ⟨⟩⟩)
    obtain ⟨id, -, hlink, -⟩ := Shelf.create_ok (LinkFile.create_ok hfine).1
    refine ⟨link, _, p, rfl, ?_, hplace, hheld, LinkFile.contentAt?_of_create hlocate hfile hfine⟩
    simp only [hlink, NewLink.toLink, htime, Option.getD_none, d₁.machine.time.isInstant]

theorem add_spares {n : NewLink} {err : Failure}
    (h : (add (m := StateM FaultyMachine) env n).run d = (.error err, e)) :
    SparesFiles env d e (.ofResult (.error err)) ∧
      ¬ (Outcome.ofResult (.error err)).IsTurnedDown := by
  rcases add_cases h with ⟨err', hopen, herr⟩ | ⟨s, f, err' | link, f', d₁, hopen, hcreate, hmade⟩
  · cases herr
    refine ⟨fun p hp _ => ?_, openLinks_late hopen⟩
    refine (openLinks_changes hopen hp).imp_right ?_
    rintro ⟨hplace, hnone, bs, hbs, hleft⟩
    refine ⟨hplace, hnone, bs, hbs, hleft.imp_right ?_⟩
    rintro ⟨err', hfault, herr⟩
    cases herr
    exact ⟨err', hfault, rfl⟩
  · cases hmade
    obtain ⟨⟨d₀, hpath, hkept⟩, -⟩ := openLinks_ok hopen
    have htouched := LinkFile.touchesOnly_of_create_error hcreate
    refine ⟨fun p hp hdraft => ?_, by cases err' <;> exact id⟩
    have helsewhere : d₁.machine.tick.locate (LinkFile.draftPath f.path) ≠ .ok p := by
      rw [Machine.locate_tick]
      exact fun hlocate => hdraft (draftPlace?_eq hpath (hkept.locate hlocate))
    have hsame : e.machine.contentAt? p = d₁.machine.contentAt? p := htouched.contents p helsewhere
    rw [hsame]
    refine (openLinks_changes hopen hp).imp_right ?_
    rintro ⟨hplace, hnone, bs, hbs, hleft⟩
    refine ⟨hplace, hnone, bs, hbs, hleft.imp_right ?_⟩
    rintro ⟨_, -, herr⟩
    cases herr
  · cases hmade

theorem ofArguments_add (args : List String) :
    (∃ r, Command.ofArguments ("add" :: args) = .error r) ∨
    ∃ user url title tags collections,
      Command.ofArguments ("add" :: args) = .ok (.add user url title tags collections) := by
  have hverb : Command.Verb.ofName? "add" = some .add := by decide
  have hhelp : "add" ≠ "help" := by decide
  simp only [Command.ofArguments, if_neg hhelp, hverb]
  cases Command.Verb.add.form.read args with
  | error r => exact .inl ⟨r, rfl⟩
  | ok m => exact .inr ⟨_, _, _, _, _, rfl⟩

theorem newLink_error {user url : String} {title tags collections : Option String} {err : Failure}
    (h : newLink user url title tags collections = .error err) :
    (Outcome.ofResult (.error err)).IsTurnedDown := by
  simp only [newLink, bind, Except.bind] at h
  cases hurl : Url.parse url with
  | error e =>
    rw [hurl] at h
    cases h
    trivial
  | ok u =>
    rw [hurl] at h
    cases hnames : Collection.ofNames (Text.items (collections.getD "")) with
    | error name =>
      rw [hnames] at h
      cases h
      trivial
    | ok cs =>
      rw [hnames] at h
      cases h

/-- A run turns its arguments down and does nothing, or it adds the link that they describe. -/
theorem run_add_cases {args : List String} {o : Outcome}
    (h : (run (m := StateM FaultyMachine) env ("add" :: args)).run d = (o, e)) :
    o.IsTurnedDown ∧ e = d ∧ described? ("add" :: args) = none ∨
    ∃ n r, described? ("add" :: args) = some n ∧ n.publishedAt = none ∧
      (add (m := StateM FaultyMachine) env n).run d = (r, e) ∧ o = .ofResult r := by
  rw [run] at h
  rcases ofArguments_add args with ⟨r, hcommand⟩ | ⟨user, url, title, tags, collections, hcommand⟩
  · rw [hcommand] at h
    cases h
    exact .inl ⟨trivial, rfl, by simp only [described?, hcommand]⟩
  · rw [hcommand] at h
    simp only [perform] at h
    cases hnew : newLink user url title tags collections with
    | error err =>
      rw [hnew] at h
      cases h
      exact .inl ⟨newLink_error hnew, rfl, by simp only [described?, hcommand, hnew, Except.toOption]⟩
    | ok n =>
      rw [hnew] at h
      simp only at h
      cases hadd : (add (m := StateM FaultyMachine) env n).run d with
      | mk r e' =>
        rw [run_bind hadd] at h
        cases h
        exact .inr ⟨n, r, by simp only [described?, hcommand, hnew, Except.toOption],
          (newLink_ok hnew).2, hadd, rfl⟩

theorem isRequest_of_isTurnedDown {o : Outcome} (h : o.IsTurnedDown) (hcode : o.code = 0) :
    o.isRequest = true := by
  cases o with
  | done | aborted => cases h
  | failed => cases hcode
  | refused r => cases r <;> first | rfl | cases hcode

/-- Adding a link is all or nothing, where the links are not kept in the file of the settings. A run
that ends well, and was not asked for help only, printed a link, and the file of the links holds those
that it held and this one. A run that does not end well spares all files but that of the settings and
the draft, which is another one than that of the links. If the arguments are turned down, which they
are exactly if they describe no link, nothing changes at all. -/
theorem add_all_or_nothing {args : List String} {o : Outcome}
    (hapart : ∀ p, linksPlace? env d.machine = some p → settingsPlace? env d.machine ≠ some p)
    (hrun : (run (m := StateM FaultyMachine) env ("add" :: args)).run d = (o, e)) :
    (o.code = 0 → o.isRequest = false → ∃ link links p, o = .done (shown link) ∧
      Link.ofText? o.output = some link ∧ linksPlace? env d.machine = some p ∧
      d.machine.HoldsLinks p links ∧
      e.machine.contentAt? p = some (Table.write (links ++ [link]))) ∧
    (o.code ≠ 0 → SparesFiles env d e o ∧
      ∀ p, linksPlace? env d.machine = some p → draftPlace? env d.machine ≠ some p) ∧
    (o.IsTurnedDown ↔ described? ("add" :: args) = none) ∧
    (o.IsTurnedDown → e = d) := by
  rcases run_add_cases hrun with ⟨hturned, rfl, hnone⟩ | ⟨n, err | output, hsome, htime, hadd, rfl⟩
  · refine ⟨fun hcode hrequest => ?_, fun _ => ⟨fun p _ _ => .inl rfl, fun p => draftPlace?_ne⟩,
      iff_of_true hturned hnone, fun _ => rfl⟩
    rw [isRequest_of_isTurnedDown hturned hcode] at hrequest
    cases hrequest
  · obtain ⟨hspared, hlate⟩ := add_spares hadd
    exact ⟨fun hcode => absurd hcode (code_ofResult_error err),
      fun _ => ⟨hspared, fun p => draftPlace?_ne⟩, iff_of_false hlate (by simp [hsome]),
      fun hturned => absurd hturned hlate⟩
  · obtain ⟨link, links, p, rfl, hinstant, hplace, hheld, hwritten⟩ := add_ok htime hadd
    exact ⟨fun _ _ => ⟨link, links, p, rfl, ofText?_shown hinstant, hplace, hheld (hapart p hplace),
      hwritten⟩, fun hcode => absurd rfl hcode, iff_of_false id (by simp [hsome]), False.elim⟩

theorem Keeps.places_apart {times : Nat → Time.Instant} {d : Machine} {base : String} {here : Place}
    {links : List Link} (hbase : baseDirectory env = .ok base) (h : Keeps times d base here links)
    (hroom : HasRoom base links) :
    linksPlace? env d = some (here ++ ["links.csv"]) ∧
      settingsPlace? env d = some (here ++ ["config.yaml"]) := by
  have hsettings : settingsPlace? env d = some (here ++ ["config.yaml"]) := by
    have hlocate := locate_of_lt h.isBase Settings.isFileName hroom.settings
    simp [settingsPlace?, hbase, Machine.makeDirectories_of_isBase h.isBase, Settings.filePath,
      hlocate, Except.toOption]
  obtain ⟨r, d₁, hload, h', rfl | ⟨-, hfull⟩⟩ := h.load_settings
  · exact ⟨linksPlace?_eq (linksPath?_eq hbase hload) (locate_of_lt h'.isBase isFileName_links hroom.table),
      hsettings⟩
  · exact absurd hroom hfull

theorem contentAt?_oneDirectory (p : Place) : LinkFile.oneDirectory.contentAt? p = none := by
  cases p with
  | nil => rfl
  | cons name p =>
    by_cases hshelf : name :: p = ["shelf"]
    · simp [Machine.contentAt?, Machine.lookUp, LinkFile.oneDirectory, hshelf]
    · simp [Machine.contentAt?, Machine.lookUp, LinkFile.oneDirectory, hshelf]

theorem hasRoom_shelf : HasRoom "shelf" [] := by constructor <;> decide +kernel

theorem oneDirectory_keeps :
    Keeps LinkFile.oneDirectory.clock LinkFile.oneDirectory "shelf" ["shelf"] [] :=
  oneDirectory_isEmptyBase.keeps oneDirectory_years

def oneLink : List String := ["-u", "ann", "--url", "mailto:ann@example.org", "--tags", "post"]

theorem oneLink_described : (described? ("add" :: oneLink)).isSome = true := by decide +kernel

theorem add_all_or_nothing_in_shelf :
    let env : Environment := { basePath := some "shelf" }
    let d : FaultyMachine := { machine := LinkFile.oneDirectory }
    (∀ p, linksPlace? env d.machine = some p → settingsPlace? env d.machine ≠ some p) ∧
    ∃ o e link, (run (m := StateM FaultyMachine) env ("add" :: oneLink)).run d = (o, e) ∧
      o.code = 0 ∧ o = .done (shown link) ∧ Link.ofText? o.output = some link ∧
      e.machine.contentAt? ["shelf", "links.csv"] = some (Table.write [link]) := by
  intro env d
  have hbase : baseDirectory env = .ok "shelf" := rfl
  obtain ⟨hlinks, hsettings⟩ := oneDirectory_keeps.places_apart hbase hasRoom_shelf
  have hapart : ∀ p, linksPlace? env d.machine = some p → settingsPlace? env d.machine ≠ some p := by
    intro p hp
    rw [hsettings, ← hp, hlinks]
    decide
  obtain ⟨n, hn⟩ := Option.isSome_iff_exists.mp oneLink_described
  obtain ⟨o, e₀, link, hrun₀, -, hadded, -⟩ := oneDirectory_keeps.run_adds hbase hn hasRoom_shelf
  have hwhole : ¬ d.IsFaulty := by simp [d, IsFaulty]
  obtain ⟨e, hrun, -⟩ := (tracks_run env _).run_of_not_faulty hwhole hrun₀
  have hcode := code_of_added? hadded
  obtain ⟨hzero, -, hturned, -⟩ := add_all_or_nothing hapart hrun
  have hrequest : o.isRequest = false := by
    refine Decidable.byContradiction fun hrequest => ?_
    have hnone : described? ("add" :: oneLink) = none := by
      refine hturned.mp ?_
      cases o with
      | refused r => trivial
      | done | failed | aborted => exact absurd rfl hrequest
    rw [hn] at hnone
    cases hnone
  obtain ⟨link, links, p, hdone, hread, hplace, hheld, hwritten⟩ := hzero hcode hrequest
  rw [hlinks] at hplace
  cases hplace
  rcases hheld with ⟨-, rfl⟩ | ⟨bs, hbs, -⟩
  · exact ⟨hapart, o, e, link, hrun, hcode, hdone, hread, hwritten⟩
  · rw [contentAt?_oneDirectory] at hbs
    cases hbs

/-- A machine without settings whose disk is full when they are written. -/
def fullDisk : FaultyMachine where
  machine := LinkFile.oneDirectory
  faults := [none, none, none, some (.torn [] (.other 28 "No space left on device"))]

theorem openLinks_fullDisk : ∃ err e,
    (openLinks (m := StateM FaultyMachine) { basePath := some "shelf" }).run fullDisk = (.error err, e) ∧
      e.machine.contentAt? ["shelf", "links.csv"] = some [] := by
  have hsettings : LinkFile.oneDirectory.locate (Settings.filePath "shelf") =
      .ok ["shelf", "config.yaml"] :=
    locate_of_lt oneDirectory_keeps.isBase Settings.isFileName hasRoom_shelf.settings
  have hlinks : LinkFile.oneDirectory.locate (joinPath "shelf" "links.csv") =
      .ok ["shelf", "links.csv"] :=
    locate_of_lt oneDirectory_keeps.isBase isFileName_links hasRoom_shelf.table
  have hkept := Machine.keepsDirectories_set (d := LinkFile.oneDirectory)
    (p := ["shelf", "config.yaml"]) (by decide) (some (.file ({} : Settings).bytes))
  have hpath : Settings.fullPath "shelf" {} = joinPath "shelf" "links.csv" := rfl
  have hbase : baseDirectory { basePath := some "shelf" } = .ok "shelf" := rfl
  rw [openLinks, hbase, fullDisk]
  simp only
  rw [run_bind (Settings.load_of_none
    (Machine.makeDirectories_of_isBase oneDirectory_keeps.isBase) hsettings rfl _)]
  simp only
  rw [hpath, run_bind (LinkFile.load_of_torn (hkept.locate hlinks) rfl _ _ _)]
  exact ⟨_, _, rfl, Machine.contentAt?_set_self (by decide) []⟩

/-- A run that is asked for help ends well and makes no file. If the header of the file of links cannot
be written, an empty file stays behind. -/
theorem add_not_all_or_nothing :
    let env : Environment := { basePath := some "shelf" }
    let d : FaultyMachine := { machine := LinkFile.oneDirectory }
    linksPlace? env LinkFile.oneDirectory = some ["shelf", "links.csv"] ∧
    settingsPlace? env LinkFile.oneDirectory = some ["shelf", "config.yaml"] ∧
    (∀ p, LinkFile.oneDirectory.contentAt? p = none) ∧
    (∃ o, (run (m := StateM FaultyMachine) env ["add", "--help"]).run d = (o, d) ∧ o.code = 0) ∧
    ∃ o e, (run (m := StateM FaultyMachine) env ("add" :: oneLink)).run fullDisk = (o, e) ∧
      o.code ≠ 0 ∧ e.machine.contentAt? ["shelf", "links.csv"] = some [] := by
  intro env d
  have hbase : baseDirectory env = .ok "shelf" := rfl
  obtain ⟨hlinks, hsettings⟩ := oneDirectory_keeps.places_apart hbase hasRoom_shelf
  refine ⟨hlinks, hsettings, contentAt?_oneDirectory, ⟨_, rfl, by decide +kernel⟩, ?_⟩
  obtain ⟨err, e, hopen, hempty⟩ := openLinks_fullDisk
  cases hrun : (run (m := StateM FaultyMachine) env ("add" :: oneLink)).run fullDisk with
  | mk o e' =>
    rcases run_add_cases hrun with ⟨-, -, hnone⟩ | ⟨n, r, -, -, hadd, rfl⟩
    · have hsome := oneLink_described
      rw [hnone] at hsome
      cases hsome
    · rw [add, run_bind hopen] at hadd
      cases hadd
      exact ⟨_, _, rfl, code_ofResult_error err, hempty⟩

end Program
end LinkShelf
