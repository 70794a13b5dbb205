import LinkShelf.Proofs.Store.Freshness
import LinkShelf.Proofs.Store.Ids

/-! The ids run out when a link is to be made and some link has the last id. Nothing is lost then, but
the shelf is broken: it keeps its links and answers nothing any more. -/
namespace LinkShelf

def LinkFile.Answer.failure? : LinkFile.Answer → Option StoreError
  | created (.error e) => some e
  | found (.error e) => some e
  | counted (.error e) => some e
  | _ => Option.none

namespace Shelf

inductive Request where
  | create (n : NewLink) (now : Time.Moment)
  | search (user : String) (f : Filter) (page : Page)
  | count (user : String) (f : Filter)

/-- What a request is answered, and the shelf behind it. -/
def step (s : Shelf) : Request → LinkFile.Answer × Shelf
  | .create n now => (.created (s.create n now).1, (s.create n now).2)
  | .search user f page => (.found (s.search user f page), s)
  | .count user f => (.counted (s.count user f), s)

def after (s : Shelf) : List Request → Shelf
  | [] => s
  | r :: rs => (s.step r).2.after rs

def answers (s : Shelf) : List Request → List LinkFile.Answer
  | [] => []
  | r :: rs => (s.step r).1 :: (s.step r).2.answers rs

/-- The ids never run out. -/
def HasIds (s : Shelf) (rs : List Request) : Prop :=
  LinkFile.Answer.created (.error .idsExhausted) ∉ s.answers rs

variable {s : Shelf} {r : Request} {rs : List Request}

theorem hasIds_cons :
    s.HasIds (r :: rs) ↔ (s.step r).1 ≠ .created (.error .idsExhausted) ∧ (s.step r).2.HasIds rs := by
  simp [HasIds, answers, eq_comm]

/-- There is no id for a link when the last one is taken. -/
theorem create_exhausted_iff (hs : s.broken = false) (n : NewLink) (now : Time.Moment) :
    (s.create n now).1 = .error .idsExhausted ↔ ∃ l ∈ s.links, l.id = Link.lastId := by
  rw [← Link.nextId?_eq_none_iff]
  cases hid : Link.nextId? s.links with
  | none => simp [create_of_none hs hid]
  | some id => simp [create_of_some hs hid]

/-- A whole shelf answers what it is asked, unless a link is to be made and there is no id for it. Then
it breaks and keeps its links. -/
theorem step_cases (hs : s.broken = false) (r : Request) :
    (s.step r).1.failure? = none ∧ (s.step r).2.broken = false ∨
      (∃ n now, r = .create n now) ∧
        s.step r = (.created (.error .idsExhausted), { s with broken := true }) := by
  cases r with
  | search user f page => exact .inl ⟨by simp [step, search, hs, LinkFile.Answer.failure?], hs⟩
  | count user f => exact .inl ⟨by simp [step, count, hs, LinkFile.Answer.failure?], hs⟩
  | create n now =>
    cases hid : Link.nextId? s.links with
    | none => exact .inr ⟨⟨n, now, rfl⟩, by simp [step, create_of_none hs hid]⟩
    | some id =>
      exact .inl ⟨by simp [step, create_of_some hs hid, LinkFile.Answer.failure?],
        by simp [step, create_of_some hs hid, hs]⟩

theorem broken_after (hs : s.broken = false) (hids : s.HasIds rs) : (s.after rs).broken = false := by
  induction rs generalizing s with
  | nil => exact hs
  | cons r rs ih =>
    obtain ⟨hnow, hlater⟩ := hasIds_cons.mp hids
    rcases step_cases hs r with ⟨-, hwhole⟩ | ⟨-, hstep⟩
    · exact ih hwhole hlater
    · rw [hstep] at hnow
      exact absurd rfl hnow

theorem step_broken (hs : s.broken = true) (r : Request) :
    (s.step r).1.failure? = some .broken ∧ (s.step r).2 = s := by
  cases r <;> simp [step, create, search, count, hs, LinkFile.Answer.failure?]

theorem after_broken (hs : s.broken = true) (rs : List Request) : s.after rs = s := by
  induction rs with
  | nil => rfl
  | cons r rs ih => rw [after, (step_broken hs r).2, ih]

/-- All that a shelf keeps when the ids run out are its links. -/
theorem after_exhausted (hs : s.broken = false) {n : NewLink} {now : Time.Moment}
    (h : (s.create n now).1 = .error .idsExhausted) (rs : List Request) :
    (s.step (.create n now)).2.after rs = { s with broken := true } := by
  have hid := Link.nextId?_eq_none_iff.mpr ((create_exhausted_iff hs n now).mp h)
  simp only [step, create_of_none hs hid]
  exact after_broken rfl rs

end Shelf

namespace LinkFile

def Event.IsRequest : Event → Prop
  | outside _ => False
  | _ => True

namespace Session

variable {c : Session}

theorem step_create_exhausted_iff (hwhole : c.file.shelf.broken = false) (n : NewLink) :
    (c.step (.create n)).1 = .created (.error .idsExhausted) ↔
      ∃ l ∈ c.links, l.id = Link.lastId := by
  rw [links, ← Link.nextId?_eq_none_iff]
  constructor
  · intro h
    refine Decidable.byContradiction fun hid => ?_
    exact step_create_ne hwhole hid n h
  · intro hid
    simp only [step, run_create, Shelf.create_of_none hwhole hid]

theorem step_exhausted (hwhole : c.file.shelf.broken = false) {n : NewLink}
    (h : (c.step (.create n)).1 = .created (.error .idsExhausted)) :
    c.step (.create n) = (.created (.error .idsExhausted),
      ⟨{ c.file with shelf := { c.file.shelf with broken := true } }, c.machine.tick⟩) := by
  have hid := Link.nextId?_eq_none_iff.mpr ((step_create_exhausted_iff hwhole n).mp h)
  simp only [step, run_create, Shelf.create_of_none hwhole hid]

/-- A whole file of links only fails when a link is to be made: there is no id for it, or it cannot be
written. -/
theorem failure_of_whole (hwhole : c.file.shelf.broken = false) {ev : Event} {err : StoreError}
    (h : (c.step ev).1.failure? = some err) :
    ∃ n, ev = .create n ∧ (err = .idsExhausted ∨ ∃ why, err = .file why) := by
  cases ev with
  | search | count | outside =>
    simp [step, Shelf.search, Shelf.count, hwhole, Answer.failure?] at h
  | create n =>
    refine ⟨n, rfl, ?_⟩
    rcases step_create_cases hwhole n with ⟨-, hnone⟩ | ⟨_, _, why, d, -, -, hstep⟩ |
      ⟨link, shelf, d, -, -, -, hstep⟩
    · rw [hnone] at h
      exact .inl (Option.some.inj h).symm
    · rw [hstep] at h
      exact .inr ⟨why, (Option.some.inj h).symm⟩
    · rw [hstep] at h
      cases h

theorem step_broken (hbroken : c.file.shelf.broken = true) (ev : Event) :
    (c.step ev).2.file = c.file ∧ (ev.IsRequest → (c.step ev).1.failure? = some .broken ∧
      (c.step ev).2.machine.node = c.machine.node) := by
  cases ev with
  | outside change => exact ⟨rfl, False.elim⟩
  | search | count =>
    simp [step, Shelf.search, Shelf.count, hbroken, Answer.failure?]
  | create n =>
    have hcreate : c.file.shelf.create n c.machine.time = (.error .broken, c.file.shelf) := by
      simp [Shelf.create, hbroken]
    have hstep : c.step (.create n) = (.created (.error .broken), ⟨c.file, c.machine.tick⟩) := by
      simp only [step, run_create, hcreate]
    rw [hstep]
    exact ⟨rfl, fun _ => ⟨rfl, rfl⟩⟩

theorem file_after_broken (hbroken : c.file.shelf.broken = true) (es : List Event) :
    (c.after es).file = c.file := by
  induction es generalizing c with
  | nil => rfl
  | cons ev es ih =>
    have hfile := (step_broken hbroken ev).1
    rw [after, ih (by rwa [hfile]), hfile]

end Session
end LinkFile

/-- Links in memory, or in a file that was loaded, for which the ids never ran out. Making a link
finds no id exactly if some link has the last one, whoever's it is. Searching and counting do not
fail, and making a link does in no other way, or because it cannot be written. When the ids run out the
links and the files stay as they are, and from then on every request fails, and changes neither. -/
theorem exhaustion_contained :
    (∀ (links : List Link) (rs : List Shelf.Request), Shelf.HasIds { links } rs →
      let s := Shelf.after { links } rs
      (∀ n now, (s.create n now).1 = .error .idsExhausted ↔
        ∃ l ∈ s.links, l.id = Link.lastId) ∧
      (∀ r err, (s.step r).1.failure? = some err →
        (∃ n now, r = .create n now) ∧ err = .idsExhausted) ∧
      ∀ n now, (s.create n now).1 = .error .idsExhausted →
        ∀ later, let s' := (s.step (.create n now)).2.after later
          s'.links = s.links ∧ ∀ r,
            (s'.step r).1.failure?.map StoreError.message = some "link list lock poisoned") ∧
    ∀ (path : String) (f : LinkFile) (d e : Machine),
      (LinkFile.load (m := StateM Machine) path).run d = (.ok f, e) →
      ∀ es, LinkFile.Session.HasIds ⟨f, e⟩ es →
      let c := LinkFile.Session.after ⟨f, e⟩ es
      (∀ n, (c.step (.create n)).1 = .created (.error .idsExhausted) ↔
        ∃ l ∈ c.links, l.id = Link.lastId) ∧
      (∀ ev err, (c.step ev).1.failure? = some err →
        ∃ n, ev = .create n ∧ (err = .idsExhausted ∨ ∃ why, err = .file why)) ∧
      ∀ n, (c.step (.create n)).1 = .created (.error .idsExhausted) →
        (c.step (.create n)).2.machine.node = c.machine.node ∧
        ∀ later, let c' := (c.step (.create n)).2.after later
          c'.links = c.links ∧ ∀ ev, ev.IsRequest →
            (c'.step ev).1.failure?.map StoreError.message = some "link list lock poisoned" ∧
            (c'.step ev).2.machine.node = c'.machine.node := by
  refine ⟨?_, ?_⟩
  · intro links rs hids s
    have hwhole : s.broken = false := Shelf.broken_after rfl hids
    refine ⟨Shelf.create_exhausted_iff hwhole, ?_, ?_⟩
    · intro r err hfails
      rcases Shelf.step_cases hwhole r with ⟨hnone, -⟩ | ⟨hcreate, hstep⟩
      · rw [hnone] at hfails
        cases hfails
      · rw [hstep] at hfails
        exact ⟨hcreate, (Option.some.inj hfails).symm⟩
    · intro n now hnone later s'
      have hs' : s' = { s with broken := true } := Shelf.after_exhausted hwhole hnone later
      rw [hs']
      refine ⟨rfl, fun r => ?_⟩
      rw [(Shelf.step_broken rfl r).1]
      rfl
  · intro path f d e hload es hids c
    obtain ⟨-, hfile⟩ := LinkFile.whole_of_load hload
    have hwhole : c.file.shelf.broken = false := (LinkFile.Session.file_after hfile hids).2
    refine ⟨LinkFile.Session.step_create_exhausted_iff hwhole,
      fun ev err => LinkFile.Session.failure_of_whole hwhole, ?_⟩
    intro n hnone
    have hstep := LinkFile.Session.step_exhausted hwhole hnone
    refine ⟨by rw [hstep]; rfl, ?_⟩
    intro later c'
    have hc' : c'.file = { c.file with shelf := { c.file.shelf with broken := true } } := by
      simp only [c', hstep]
      exact LinkFile.Session.file_after_broken rfl later
    have hbroken : c'.file.shelf.broken = true := by rw [hc']
    refine ⟨by rw [LinkFile.Session.links, hc']; rfl, fun ev hev => ?_⟩
    obtain ⟨hfails, hnode⟩ := (LinkFile.Session.step_broken hbroken ev).2 hev
    exact ⟨by rw [hfails]; rfl, hnode⟩

def withLastId : Machine := LinkFile.oneDirectory.set ["shelf", "links.csv"]
  (some (.file (Table.write [LinkFile.awkward])))

theorem load_withLastId : (LinkFile.load (m := StateM Machine) "shelf/links.csv").run withLastId =
    (.ok { path := "shelf/links.csv", shelf := { links := [LinkFile.awkward] } }, withLastId) := by
  refine LinkFile.load_in_shelf (Table.read_write fun l hl => ?_)
  rw [List.mem_singleton.mp hl]
  exact LinkFile.awkward_durable

theorem exhaustion_contained_at_lastId :
    Shelf.HasIds { links := [LinkFile.awkward] } [.count "ann" {}] ∧
    (LinkFile.load (m := StateM Machine) "shelf/links.csv").run withLastId =
      (.ok { path := "shelf/links.csv", shelf := { links := [LinkFile.awkward] } }, withLastId) ∧
    let c : LinkFile.Session :=
      ⟨{ path := "shelf/links.csv", shelf := { links := [LinkFile.awkward] } }, withLastId⟩
    c.HasIds [.count "ann" {}] ∧
    ∀ n : NewLink,
      (Shelf.create { links := [LinkFile.awkward] } n LinkFile.awkward.publishedAt).1 =
        .error .idsExhausted ∧
      (c.step (.create n)).1 = .created (.error .idsExhausted) ∧
      ((c.step (.create n)).2.after [.create n, .outside (·.remove ["shelf"])]).links =
        [LinkFile.awkward] := by
  have hmemory : Shelf.HasIds { links := [LinkFile.awkward] } [.count "ann" {}] := by
    simp [Shelf.HasIds, Shelf.answers, Shelf.step]
  have hfile : LinkFile.Session.HasIds
      ⟨{ path := "shelf/links.csv", shelf := { links := [LinkFile.awkward] } }, withLastId⟩
      [.count "ann" {}] := by
    simp [LinkFile.Session.HasIds, LinkFile.Session.answers, LinkFile.Session.step]
  obtain ⟨hinMemory, -⟩ := exhaustion_contained.1 [LinkFile.awkward] _ hmemory
  obtain ⟨hinFile, -, hlater⟩ := exhaustion_contained.2 _ _ _ _ load_withLastId _ hfile
  have hlast : ∃ l ∈ [LinkFile.awkward], l.id = Link.lastId := ⟨LinkFile.awkward, by simp, rfl⟩
  refine ⟨hmemory, load_withLastId, hfile, fun n => ?_⟩
  have hnone := (hinFile n).mpr hlast
  exact ⟨(hinMemory n _).mpr hlast, hnone, ((hlater n hnone).2 _).1⟩

end LinkShelf
