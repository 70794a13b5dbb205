import LinkShelf.Proofs.Store.Exhaustion
import LinkShelf.Proofs.Store.Listing
import Mathlib.Data.List.Nodup

/-! The order in which links are kept does not show. Shelves with the same links answer alike if the
links have ids of their own, whatever is asked of them one after the other. -/
namespace LinkShelf
namespace Link

variable {xs ys : List Link}

theorem nextId?_perm (h : xs.Perm ys) : nextId? xs = nextId? ys := by
  cases hx : nextId? xs with
  | none =>
    obtain ⟨l, hl, hlast⟩ := nextId?_eq_none_iff.mp hx
    exact (nextId?_eq_none_iff.mpr ⟨l, h.subset hl, hlast⟩).symm
  | some m =>
    cases hy : nextId? ys with
    | none =>
      obtain ⟨l, hl, hlast⟩ := nextId?_eq_none_iff.mp hy
      rw [nextId?_eq_none_iff.mpr ⟨l, h.symm.subset hl, hlast⟩] at hx
      cases hx
    | some n =>
      -- each is above all ids, and the least number that is
      obtain ⟨habove, hleast⟩ := nextId?_spec hx
      obtain ⟨habove', hleast'⟩ := nextId?_spec hy
      have hle : m.toNat ≤ n.toNat := hleast _ fun l hl => habove' l (h.subset hl)
      have hge : n.toNat ≤ m.toNat := hleast' _ fun l hl => habove l (h.symm.subset hl)
      rw [UInt64.toNat_inj.mp (Nat.le_antisymm hle hge)]

theorem matching_perm (h : xs.Perm ys) (user : String) (f : Filter) :
    (matching xs user f).Perm (matching ys user f) :=
  h.filter _

/-- Links with ids of their own can be put in order in one way only. -/
theorem sorted_perm_eq (h : xs.Perm ys) (hids : (xs.map id).Nodup) : sorted xs = sorted ys := by
  have hsorted : (sorted xs).Perm (sorted ys) :=
    (sorted_perm xs).trans (h.trans (sorted_perm ys).symm)
  refine hsorted.eq_of_pairwise ?_ (pairwise_sorted xs) (pairwise_sorted ys)
  intro a b ha hb hab hba
  have ha' := (sorted_perm xs).subset ha
  have hb' := h.symm.subset ((sorted_perm ys).subset hb)
  exact List.inj_on_of_nodup_map hids ha' hb' (hab.antisymm hba).2

end Link

theorem NewLink.toLink_of_time {n : NewLink} (h : n.publishedAt ≠ none) (id : UInt64)
    (now now' : Time.Moment) : n.toLink id now = n.toLink id now' := by
  obtain ⟨t, ht⟩ := Option.ne_none_iff_exists'.mp h
  simp only [toLink, ht, Option.getD_some]

namespace Shelf

/-- The links of both are the same, in whatever order, and have ids of their own. -/
structure SameLinks (s t : Shelf) : Prop where
  perm : s.links.Perm t.links
  nodup : (s.links.map Link.id).Nodup
  broken : s.broken = t.broken

/-- Requests that are the same to two shelves, each with a clock of its own: a link that is made has
its time already. -/
inductive Request.Alike : Request → Request → Prop
  | create {n : NewLink} (h : n.publishedAt ≠ none) (now now' : Time.Moment) :
    Alike (create n now) (create n now')
  | search (user : String) (f : Filter) (page : Page) :
    Alike (search user f page) (search user f page)
  | count (user : String) (f : Filter) : Alike (count user f) (count user f)

namespace SameLinks

variable {s t : Shelf}

theorem search_eq (h : s.SameLinks t) (user : String) (f : Filter) (page : Page) :
    s.search user f page = t.search user f page := by
  have hids : ((Link.matching s.links user f).map Link.id).Nodup :=
    h.nodup.sublist (List.filter_sublist.map Link.id)
  rw [Shelf.search, Shelf.search, h.broken,
    Link.sorted_perm_eq (Link.matching_perm h.perm user f) hids]

theorem count_eq (h : s.SameLinks t) (user : String) (f : Filter) :
    s.count user f = t.count user f := by
  rw [Shelf.count, Shelf.count, h.broken, (Link.matching_perm h.perm user f).length_eq]

theorem create (h : s.SameLinks t) {n : NewLink} (htime : n.publishedAt ≠ none)
    (now now' : Time.Moment) :
    (s.create n now).1 = (t.create n now').1 ∧
      (s.create n now).2.SameLinks (t.create n now').2 := by
  have hnodup := (s.grows_create n now).nodup_iff.mpr h.nodup
  have hnext := Link.nextId?_perm h.perm
  cases hs : s.broken with
  | true =>
    have ht := h.broken.symm.trans hs
    simpa [Shelf.create, hs, ht] using h
  | false =>
    have ht := h.broken.symm.trans hs
    cases hid : Link.nextId? s.links with
    | none =>
      rw [create_of_none hs hid, create_of_none ht (hnext.symm.trans hid)]
      exact ⟨rfl, h.perm, h.nodup, rfl⟩
    | some id =>
      rw [create_of_some hs hid, n.toLink_of_time htime id now now'] at hnodup ⊢
      rw [create_of_some ht (hnext.symm.trans hid)]
      exact ⟨rfl, h.perm.append_right _, hnodup, h.broken⟩

theorem step (h : s.SameLinks t) {r r' : Request} (hr : r.Alike r') :
    (s.step r).1 = (t.step r').1 ∧ (s.step r).2.SameLinks (t.step r').2 := by
  cases hr with
  | create htime now now' =>
    obtain ⟨hanswer, hafter⟩ := h.create htime now now'
    exact ⟨congrArg LinkFile.Answer.created hanswer, hafter⟩
  | search user f page => exact ⟨congrArg LinkFile.Answer.found (h.search_eq user f page), h⟩
  | count user f => exact ⟨congrArg LinkFile.Answer.counted (h.count_eq user f), h⟩

theorem run (h : s.SameLinks t) {rs rs' : List Request} (hrs : List.Forall₂ Request.Alike rs rs') :
    s.answers rs = t.answers rs' ∧ (s.after rs).SameLinks (t.after rs') := by
  induction hrs generalizing s t with
  | nil => exact ⟨rfl, h⟩
  | cons hr _ ih =>
    obtain ⟨hanswer, hafter⟩ := h.step hr
    obtain ⟨hanswers, hend⟩ := ih hafter
    exact ⟨by rw [answers, answers, hanswer, hanswers], hend⟩

end SameLinks

/-- Two shelves with the same links find and count the same. A link with a time of its own that is
made on both is the same link, or the ids run out on both, and again they find and count the same.
So it goes on, whatever is asked of both. -/
theorem answers_of_reordered {s t : Shelf} (h : s.SameLinks t) :
    (∀ user f page, s.search user f page = t.search user f page) ∧
    (∀ user f, s.count user f = t.count user f) ∧
    (∀ (n : NewLink) (now now' : Time.Moment), n.publishedAt ≠ none →
      (s.broken = false →
        (s.create n now).1 = .error .idsExhausted ∧ (t.create n now').1 = .error .idsExhausted ∨
        ∃ link, (s.create n now).1 = .ok link ∧ (t.create n now').1 = .ok link) ∧
      (∀ user f page, (s.create n now).2.search user f page =
        (t.create n now').2.search user f page) ∧
      ∀ user f, (s.create n now).2.count user f = (t.create n now').2.count user f) ∧
    ∀ rs rs', List.Forall₂ Request.Alike rs rs' → s.answers rs = t.answers rs' := by
  refine ⟨h.search_eq, h.count_eq, fun n now now' htime => ?_, fun rs rs' hrs => (h.run hrs).1⟩
  obtain ⟨hanswer, hafter⟩ := h.create htime now now'
  refine ⟨fun hs => ?_, hafter.search_eq, hafter.count_eq⟩
  rw [← hanswer]
  cases hid : Link.nextId? s.links with
  | none => exact .inl (by simp [create_of_none hs hid])
  | some id => exact .inr ⟨n.toLink id now, by simp [create_of_some hs hid]⟩

/-- Three links of that time are kept in another order, and a fourth one is made on clocks that
differ. -/
theorem answers_of_reordered_of_one_time :
    let s : Shelf := { links := ofOneTime [7, 2, 3] }
    let t : Shelf := { links := ofOneTime [3, 7, 2] }
    let page : Page := { offset := 1, limit := some 2 }
    let rs : List Request := [.create newOfOneTime .yearOne, .search "ann" {} page]
    let rs' : List Request :=
      [.create newOfOneTime LinkFile.awkward.publishedAt, .search "ann" {} page]
    s.SameLinks t ∧ newOfOneTime.publishedAt ≠ none ∧ s.broken = false ∧
    List.Forall₂ Request.Alike rs rs' ∧
    s.search "ann" {} page = t.search "ann" {} page ∧
    (s.create newOfOneTime .yearOne).2.search "ann" {} page =
      (t.create newOfOneTime LinkFile.awkward.publishedAt).2.search "ann" {} page ∧
    s.answers rs = t.answers rs' := by
  intro s t page rs rs'
  have hsame : s.SameLinks t := ⟨by decide, by decide, rfl⟩
  have htime : newOfOneTime.publishedAt ≠ none := by simp [newOfOneTime]
  have hasked : List.Forall₂ Request.Alike rs rs' :=
    .cons (.create htime _ _) (.cons (.search "ann" {} page) .nil)
  obtain ⟨hsearch, -, hcreate, hrun⟩ := answers_of_reordered hsame
  obtain ⟨-, hlater, -⟩ := hcreate newOfOneTime .yearOne LinkFile.awkward.publishedAt htime
  exact ⟨hsame, htime, rfl, hasked, hsearch "ann" {} page, hlater "ann" {} page, hrun _ _ hasked⟩

end Shelf
end LinkShelf
