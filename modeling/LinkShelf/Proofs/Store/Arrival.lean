import LinkShelf.Proofs.Store.Freshness
import LinkShelf.Proofs.Store.Listing

/-! What a new link changes of what is found. A search that it matches lists it behind the last link
that is not older, and leaves the others in order. Any other search finds what it found before. -/
namespace LinkShelf
namespace Link

/-- The list with the link in it, behind all that are not older and in front of all that are. -/
def InsertedByTime (link : Link) (before after : List Link) : Prop :=
  ∃ newer older, before = newer ++ older ∧ after = newer ++ link :: older ∧
    (∀ l ∈ newer, l.publishedAt.before link.publishedAt = false) ∧
    ∀ l ∈ older, l.publishedAt.before link.publishedAt = true

/-- The links of a list in order that are not older than a time come first. -/
theorem exists_split_at_time {list : List Link} (h : list.Pairwise Precedes) (t : Time.Moment) :
    ∃ newer older, list = newer ++ older ∧ (∀ l ∈ newer, l.publishedAt.before t = false) ∧
      ∀ l ∈ older, l.publishedAt.before t = true := by
  induction list with
  | nil => exact ⟨[], [], rfl, by simp, by simp⟩
  | cons l list ih =>
    by_cases hl : l.publishedAt.before t = true
    · refine ⟨[], l :: list, rfl, by simp, fun m hm => ?_⟩
      rcases List.mem_cons.mp hm with rfl | hm
      · exact hl
      -- behind an older link there are only links that are as old or older still
      rcases List.rel_of_pairwise_cons h hm with hbefore | ⟨hsame, -⟩
      · exact Time.Moment.before_trans hbefore hl
      · rwa [← hsame]
    · obtain ⟨newer, older, rfl, hnewer, holder⟩ := ih h.of_cons
      refine ⟨l :: newer, older, rfl, fun m hm => ?_, holder⟩
      rcases List.mem_cons.mp hm with rfl | hm
      · simpa using hl
      · exact hnewer m hm

theorem precedes_of_not_before {l link : Link}
    (htime : l.publishedAt.before link.publishedAt = false) (hid : l.id < link.id) :
    l.Precedes link := by
  by_cases hlater : link.publishedAt.before l.publishedAt = true
  · exact .inl hlater
  · exact .inr ⟨Time.Moment.eq_of_not_before htime (by simpa using hlater), UInt64.le_of_lt hid⟩

namespace InsertedByTime

variable {link : Link} {before after : List Link}

theorem perm (h : InsertedByTime link before after) : after.Perm (before ++ [link]) := by
  obtain ⟨newer, older, rfl, rfl, -⟩ := h
  exact List.perm_middle.trans (List.perm_append_singleton link (newer ++ older)).symm

theorem length_eq (h : InsertedByTime link before after) : after.length = before.length + 1 := by
  rw [h.perm.length_eq, List.length_append, List.length_singleton]

theorem pairwise (h : InsertedByTime link before after) (hbefore : before.Pairwise Precedes)
    (hids : ∀ l ∈ before, l.id < link.id) : after.Pairwise Precedes := by
  obtain ⟨newer, older, rfl, rfl, hnewer, holder⟩ := h
  obtain ⟨hfront, hback, hacross⟩ := List.pairwise_append.mp hbefore
  refine List.pairwise_append.mpr ⟨hfront, List.pairwise_cons.mpr ⟨?_, hback⟩, ?_⟩
  · intro l hl
    exact .inl (holder l hl)
  · intro l hl m hm
    rcases List.mem_cons.mp hm with rfl | hm
    · exact precedes_of_not_before (hnewer l hl) (hids l (by simp [hl]))
    · exact hacross l hl m hm

theorem filter_eq (h : InsertedByTime link before after) (hids : ∀ l ∈ before, l.id < link.id)
    (t : Time.Moment) (id : UInt64) :
    (after.filter fun l => l.publishedAt = t ∧ l.id = id) =
      (before ++ [link]).filter fun l => l.publishedAt = t ∧ l.id = id := by
  obtain ⟨newer, older, rfl, rfl, -⟩ := h
  by_cases hlink : link.publishedAt = t ∧ link.id = id
  · have hnone : (newer ++ older).filter (fun l => l.publishedAt = t ∧ l.id = id) = [] := by
      refine List.filter_eq_nil_iff.mpr fun l hl => ?_
      rw [decide_eq_true_eq]
      rintro ⟨-, hid⟩
      exact UInt64.ne_of_lt (hids l hl) (hid.trans hlink.2.symm)
    have hboth := hnone
    rw [List.filter_append, List.append_eq_nil_iff] at hboth
    rw [List.filter_append (newer ++ older), hnone, List.filter_append, List.filter_cons, hboth.1,
      hboth.2]
    simp [hlink]
  · simp [List.filter_append, hlink]

end InsertedByTime

namespace IsListing

variable {links list : List Link} {link : Link} {user : String} {f : Filter}

theorem concat_of_not (h : IsListing links user f list)
    (hnot : ¬ (link.userId = user ∧ f.accepts link = true)) :
    IsListing (links ++ [link]) user f list := by
  have hsame : ((links ++ [link]).filter fun l => l.userId = user ∧ f.accepts l = true) =
      links.filter fun l => l.userId = user ∧ f.accepts l = true := by
    rw [List.filter_append, List.filter_cons_of_neg (by simpa using hnot), List.filter_nil,
      List.append_nil]
  constructor
  · rw [hsame]
    exact h.perm
  · exact h.ordered
  · rw [hsame]
    exact h.stable

theorem concat (h : IsListing links user f list) (huser : link.userId = user)
    (haccepts : f.accepts link = true) (hids : ∀ l ∈ links, l.id < link.id) :
    ∃ after, InsertedByTime link list after ∧ IsListing (links ++ [link]) user f after := by
  have hmore : ((links ++ [link]).filter fun l => l.userId = user ∧ f.accepts l = true) =
      (links.filter fun l => l.userId = user ∧ f.accepts l = true) ++ [link] := by
    rw [List.filter_append, List.filter_cons_of_pos (by simp [huser, haccepts]), List.filter_nil]
  have hlisted : ∀ l ∈ list, l.id < link.id := fun l hl =>
    hids l (List.mem_filter.mp (h.perm.subset hl)).1
  obtain ⟨newer, older, hlist, hnewer, holder⟩ := exists_split_at_time h.ordered link.publishedAt
  have hinserted : InsertedByTime link list (newer ++ link :: older) :=
    ⟨newer, older, hlist, rfl, hnewer, holder⟩
  refine ⟨_, hinserted, ?_, hinserted.pairwise h.ordered hlisted, fun t id => ?_⟩
  · rw [hmore]
    exact hinserted.perm.trans (h.perm.append_right [link])
  · rw [hmore, hinserted.filter_eq hlisted, List.filter_append, List.filter_append, h.stable t id]

theorem search_eq {s : Shelf} (h : IsListing s.links user f list) (hs : s.broken = false) :
    s.search user f {} = .ok list := by
  rw [h.eq_sorted, Shelf.search, hs]
  rfl

theorem count_eq {s : Shelf} (h : IsListing s.links user f list) (hs : s.broken = false) :
    s.count user f = .ok list.length := by
  rw [h.eq_sorted, (sorted_perm _).length_eq, Shelf.count, hs]
  rfl

end IsListing
end Link

namespace Shelf

theorem whole_of_create {s s' : Shelf} {n : NewLink} {now : Time.Moment} {link : Link}
    (h : s.create n now = (.ok link, s')) : s.broken = false := by
  cases hs : s.broken with
  | false => rfl
  | true =>
    rw [create, hs] at h
    cases h

/-- A link that is made is put into each search of its user that it matches, behind the last link
that is not older, and counts for one more there. All other searches and counts stay the same. -/
theorem search_after_create {s s' : Shelf} {n : NewLink} {now : Time.Moment} {link : Link}
    (h : s.create n now = (.ok link, s')) (user : String) (f : Filter) :
    ∃ before after, s.search user f {} = .ok before ∧ s'.search user f {} = .ok after ∧
      s.count user f = .ok before.length ∧
      (¬ (link.userId = user ∧ f.accepts link = true) →
        after = before ∧ s'.count user f = .ok before.length) ∧
      (link.userId = user → f.accepts link = true →
        Link.InsertedByTime link before after ∧ s'.count user f = .ok (before.length + 1)) := by
  have hwhole := whole_of_create h
  obtain ⟨id, hid, rfl, rfl⟩ := create_ok h
  have hids : ∀ l ∈ s.links, l.id < (n.toLink id now).id := fun l hl =>
    UInt64.lt_iff_toNat_lt.mpr ((Link.nextId?_spec hid).1 l hl)
  have hbefore := Link.isListing_sorted s.links user f
  by_cases hmatch : (n.toLink id now).userId = user ∧ f.accepts (n.toLink id now) = true
  · obtain ⟨after, hinserted, hafter⟩ := hbefore.concat hmatch.1 hmatch.2 hids
    refine ⟨_, after, hbefore.search_eq hwhole, hafter.search_eq rfl, hbefore.count_eq hwhole,
      fun hnot => absurd hmatch hnot, fun _ _ => ⟨hinserted, ?_⟩⟩
    rw [hafter.count_eq rfl, hinserted.length_eq]
  · have hafter := hbefore.concat_of_not hmatch
    refine ⟨_, _, hbefore.search_eq hwhole, hafter.search_eq rfl, hbefore.count_eq hwhole,
      fun _ => ⟨rfl, hafter.count_eq rfl⟩, fun huser haccepts => absurd ⟨huser, haccepts⟩ hmatch⟩

theorem search_after_create_of_one_time :
    let link := newOfOneTime.toLink 8 .yearOne
    (({ links := ofOneTime [7, 2] } : Shelf).create newOfOneTime .yearOne =
      (.ok link, { links := ofOneTime [7, 2] ++ [link] })) ∧
    ∃ before after, ({ links := ofOneTime [7, 2] } : Shelf).search "ann" {} {} = .ok before ∧
      ({ links := ofOneTime [7, 2] ++ [link] } : Shelf).search "ann" {} {} = .ok after ∧
      Link.InsertedByTime link before after := by
  intro link
  have hid : Link.nextId? (ofOneTime [7, 2]) = some 8 := by decide
  have hcreate := create_of_some (s := { links := ofOneTime [7, 2] }) rfl hid newOfOneTime .yearOne
  obtain ⟨before, after, hbefore, hafter, -, -, hinserted⟩ := search_after_create hcreate "ann" {}
  exact ⟨hcreate, before, after, hbefore, hafter, (hinserted rfl (by decide +kernel)).1⟩

end Shelf
end LinkShelf
