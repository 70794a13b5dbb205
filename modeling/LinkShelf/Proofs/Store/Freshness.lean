import LinkShelf.Proofs.Store.History
import LinkShelf.Proofs.Store.Ids

/-! Links are only ever added, at the end, and with ids above all that were there. So it is for links
in memory and for those in a file, whatever fails in between. -/
namespace LinkShelf
namespace Link

/-- `after` is `before` with the links `made` behind it, and the ids of these go up from there. -/
structure Grows (before made after : List Link) : Prop where
  appended : after = before ++ made
  above : ∀ l ∈ before, ∀ m ∈ made, l.id < m.id
  increasing : made.Pairwise (·.id < ·.id)
  zero : before = [] → ∀ m ∈ made.head?, m.id = 0

namespace Grows

variable {before made after later more : List Link}

theorem refl (links : List Link) : Grows links [] links := by
  constructor <;> simp

theorem single {link : Link} (h : nextId? before = some link.id) :
    Grows before [link] (before ++ [link]) where
  appended := rfl
  above l hl m hm := by
    obtain rfl : m = link := by simpa using hm
    exact UInt64.lt_iff_toNat_lt.mpr ((nextId?_spec h).1 l hl)
  increasing := by simp
  zero hnone m hm := by
    obtain rfl : m = link := by simpa using hm.symm
    subst hnone
    exact (Option.some.inj h).symm

theorem trans (h : Grows before made after) (h' : Grows after more later) :
    Grows before (made ++ more) later where
  appended := by rw [h'.appended, h.appended, List.append_assoc]
  above l hl m hm := by
    rcases List.mem_append.mp hm with hm | hm
    · exact h.above l hl m hm
    · exact h'.above l (by simp [h.appended, hl]) m hm
  increasing := by
    refine List.pairwise_append.mpr ⟨h.increasing, h'.increasing, fun l hl m hm => ?_⟩
    exact h'.above l (by simp [h.appended, hl]) m hm
  zero hnone m hm := by
    cases made with
    | nil => exact h'.zero (by simp [h.appended, hnone]) m hm
    | cons x made => exact h.zero hnone m hm

/-- Links that were told apart by their ids still are. -/
theorem nodup_iff (h : Grows before made after) :
    (after.map Link.id).Nodup ↔ (before.map Link.id).Nodup := by
  have hmade : (made.map Link.id).Nodup :=
    List.pairwise_map.mpr (h.increasing.imp fun hlt => UInt64.ne_of_lt hlt)
  rw [h.appended, List.map_append, List.nodup_append]
  constructor
  · exact And.left
  · intro hbefore
    refine ⟨hbefore, hmade, fun i hi j hj => ?_⟩
    obtain ⟨l, hl, rfl⟩ := List.mem_map.mp hi
    obtain ⟨m, hm, rfl⟩ := List.mem_map.mp hj
    exact UInt64.ne_of_lt (h.above l hl m hm)

end Grows
end Link

namespace Shelf

def made (r : Except StoreError Link) : List Link := r.toOption.toList

def madeBy (s : Shelf) : List (NewLink × Time.Moment) → List Link
  | [] => []
  | n :: ns => made (s.create n.1 n.2).1 ++ (s.create n.1 n.2).2.madeBy ns

theorem grows_create (s : Shelf) (n : NewLink) (now : Time.Moment) :
    Link.Grows s.links (made (s.create n now).1) (s.create n now).2.links := by
  unfold create
  split
  · exact Link.Grows.refl s.links
  split
  · exact Link.Grows.refl s.links
  · rename_i id hid
    exact Link.Grows.single hid

theorem grows_createAll (s : Shelf) (ns : List (NewLink × Time.Moment)) :
    Link.Grows s.links (s.madeBy ns) (s.createAll ns).links := by
  induction ns generalizing s with
  | nil => exact Link.Grows.refl s.links
  | cons n ns ih => exact (s.grows_create n.1 n.2).trans (ih (s.create n.1 n.2).2)

end Shelf

namespace LinkFile

def Answer.made : Answer → List Link
  | created r => Shelf.made r
  | found _ | counted _ | none => []

namespace Session

def links (c : Session) : List Link := c.file.shelf.links

def madeBy (c : Session) (es : List Event) : List Link := (c.answers es).flatMap Answer.made

theorem grows_step (c : Session) (e : Event) :
    Link.Grows c.links (c.step e).1.made (c.step e).2.links := by
  cases e with
  | search | count | outside => exact Link.Grows.refl c.links
  | create n =>
    have hcreate := c.file.shelf.grows_create n c.machine.time
    rcases create_cases c.file n c.machine with ⟨err, shelf, hshelf, hrun⟩ | ⟨err, d, hrun⟩ |
      ⟨link, shelf, d, hshelf, -, hrun⟩
    · rw [hshelf] at hcreate
      simp only [step, hrun]
      exact hcreate
    · -- a link that cannot be written is not kept
      simp only [step, hrun]
      exact Link.Grows.refl c.links
    · rw [hshelf] at hcreate
      simp only [step, hrun]
      exact hcreate

theorem grows_after (c : Session) (es : List Event) :
    Link.Grows c.links (c.madeBy es) (c.after es).links := by
  induction es generalizing c with
  | nil => exact Link.Grows.refl c.links
  | cons e es ih => exact (c.grows_step e).trans (ih (c.step e).2)

end Session
end LinkFile

/-- Whatever links are made, in memory or in a file, and whichever of them fail: each that is answered
stands at the end, behind all others as they were, and its id is greater than theirs. The ids that
are answered go up, and no id comes twice that was not there twice. -/
theorem creates_grow :
    (∀ (s : Shelf) (ns : List (NewLink × Time.Moment)),
      Link.Grows s.links (s.madeBy ns) (s.createAll ns).links ∧
      (∀ n now, Link.Grows (s.createAll ns).links (Shelf.made ((s.createAll ns).create n now).1)
        ((s.createAll ns).create n now).2.links) ∧
      (((s.createAll ns).links.map Link.id).Nodup ↔ (s.links.map Link.id).Nodup)) ∧
    ∀ (c : LinkFile.Session) (es : List LinkFile.Event),
      Link.Grows c.links (c.madeBy es) (c.after es).links ∧
      (∀ n, Link.Grows (c.after es).links ((c.after es).step (.create n)).1.made
        ((c.after es).step (.create n)).2.links) ∧
      (((c.after es).links.map Link.id).Nodup ↔ (c.links.map Link.id).Nodup) := by
  constructor
  · intro s ns
    have hall := s.grows_createAll ns
    exact ⟨hall, (s.createAll ns).grows_create, hall.nodup_iff⟩
  · intro c es
    have hall := c.grows_after es
    exact ⟨hall, fun n => (c.after es).grows_step (.create n), hall.nodup_iff⟩

end LinkShelf
