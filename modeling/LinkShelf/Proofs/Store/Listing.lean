import LinkShelf.Proofs.Time.Order
import LinkShelf.Store.Shelf

/-! What a search lists, and in which order. The pages of a search are parts of one list, and the
count is its length. -/
namespace LinkShelf
namespace Link

/-- The order of a listing: newer links first, and of those of one time the one with the smaller
id. -/
def Precedes (a b : Link) : Prop :=
  b.publishedAt.before a.publishedAt = true ∨ a.publishedAt = b.publishedAt ∧ a.id ≤ b.id

theorem comesFirst_iff {a b : Link} : comesFirst a b = true ↔ a.Precedes b := by
  simp only [comesFirst, Precedes, Bool.or_eq_true, Bool.and_eq_true, Bool.not_eq_true',
    decide_eq_true_eq]
  constructor
  · rintro (hlater | ⟨hnot, hid⟩)
    · exact .inl hlater
    · by_cases hlater : b.publishedAt.before a.publishedAt = true
      · exact .inl hlater
      · exact .inr ⟨Time.Moment.eq_of_not_before hnot (by simpa using hlater), hid⟩
  · rintro (hlater | ⟨hsame, hid⟩)
    · exact .inl hlater
    · exact .inr ⟨by rw [hsame, Time.Moment.before_irrefl], hid⟩

theorem Precedes.trans {a b c : Link} (hab : a.Precedes b) (hbc : b.Precedes c) :
    a.Precedes c := by
  rcases hab with hab | ⟨hab, hid⟩ <;> rcases hbc with hbc | ⟨hbc, hid'⟩
  · exact .inl (Time.Moment.before_trans hbc hab)
  · exact .inl (hbc ▸ hab)
  · exact .inl (hab ▸ hbc)
  · exact .inr ⟨hab.trans hbc, UInt64.le_trans hid hid'⟩

theorem Precedes.antisymm {a b : Link} (hab : a.Precedes b) (hba : b.Precedes a) :
    a.publishedAt = b.publishedAt ∧ a.id = b.id := by
  rcases hab with hab | ⟨htime, hid⟩ <;> rcases hba with hba | ⟨htime', hid'⟩
  · have hself := Time.Moment.before_trans hab hba
    rw [Time.Moment.before_irrefl] at hself
    cases hself
  · rw [htime', Time.Moment.before_irrefl] at hab
    cases hab
  · rw [htime, Time.Moment.before_irrefl] at hba
    cases hba
  · exact ⟨htime, UInt64.le_antisymm hid hid'⟩

theorem precedes_total (a b : Link) : a.Precedes b ∨ b.Precedes a := by
  by_cases hlater : b.publishedAt.before a.publishedAt = true
  · exact .inl (.inl hlater)
  by_cases hearlier : a.publishedAt.before b.publishedAt = true
  · exact .inr (.inl hearlier)
  have hsame : a.publishedAt = b.publishedAt :=
    Time.Moment.eq_of_not_before (by simpa using hearlier) (by simpa using hlater)
  rcases UInt64.le_total a.id b.id with hid | hid
  · exact .inl (.inr ⟨hsame, hid⟩)
  · exact .inr (.inr ⟨hsame.symm, hid⟩)

theorem comesFirst_trans (a b c : Link) (hab : comesFirst a b = true)
    (hbc : comesFirst b c = true) : comesFirst a c = true :=
  comesFirst_iff.mpr ((comesFirst_iff.mp hab).trans (comesFirst_iff.mp hbc))

theorem comesFirst_total (a b : Link) : (comesFirst a b || comesFirst b a) = true := by
  rw [Bool.or_eq_true, comesFirst_iff, comesFirst_iff]
  exact precedes_total a b

theorem pairwise_sorted (links : List Link) : (sorted links).Pairwise Precedes :=
  (List.pairwise_mergeSort comesFirst_trans comesFirst_total links).imp comesFirst_iff.mp

theorem sorted_perm (links : List Link) : (sorted links).Perm links :=
  List.mergeSort_perm links comesFirst

/-- Sorting does not move links past each other that may stand in either order. -/
theorem filter_sorted {p : Link → Bool} (hp : ∀ a b, p a = true → p b = true → a.Precedes b)
    (links : List Link) : (sorted links).filter p = links.filter p := by
  have hlevel : (links.filter p).Pairwise fun a b => comesFirst a b = true := by
    refine List.pairwise_iff_forall_sublist.mpr fun {a b} hab => ?_
    have ha : a ∈ links.filter p := hab.subset (by simp)
    have hb : b ∈ links.filter p := hab.subset (by simp)
    exact comesFirst_iff.mpr (hp a b (List.mem_filter.mp ha).2 (List.mem_filter.mp hb).2)
  have hsub : (links.filter p).Sublist (sorted links) :=
    List.sublist_mergeSort comesFirst_trans comesFirst_total hlevel List.filter_sublist
  have hkept : (links.filter p).Sublist ((sorted links).filter p) := by
    simpa using hsub.filter p
  exact (hkept.eq_of_length ((sorted_perm links).filter p).length_eq.symm).symm

/-- What lists the links that a user asks for: each as often as it is kept, in order, and links that
have time and id in common as they are kept. -/
structure IsListing (links : List Link) (user : String) (f : Filter) (list : List Link) : Prop where
  perm : list.Perm (links.filter fun l => l.userId = user ∧ f.accepts l = true)
  ordered : list.Pairwise Precedes
  stable : ∀ (t : Time.Moment) (id : UInt64),
    (list.filter fun l => l.publishedAt = t ∧ l.id = id) =
      (links.filter fun l => l.userId = user ∧ f.accepts l = true).filter fun l =>
        l.publishedAt = t ∧ l.id = id

theorem matching_eq (links : List Link) (user : String) (f : Filter) :
    matching links user f = links.filter fun l => l.userId = user ∧ f.accepts l = true := by
  refine List.filter_congr fun l _ => ?_
  rw [Bool.eq_iff_iff]
  simp

theorem isListing_sorted (links : List Link) (user : String) (f : Filter) :
    IsListing links user f (sorted (matching links user f)) where
  perm := by
    rw [matching_eq]
    exact sorted_perm _
  ordered := pairwise_sorted _
  stable t id := by
    rw [matching_eq]
    apply filter_sorted
    intro a b ha hb
    obtain ⟨rfl, rfl⟩ := of_decide_eq_true ha
    obtain ⟨htime, hid⟩ := of_decide_eq_true hb
    exact .inr ⟨htime.symm, by rw [hid]; exact UInt64.le_refl _⟩

/-- Two lists in order hold the same links in the same places if they do so among the links of each
time and id. -/
theorem eq_of_pairwise_precedes {xs ys : List Link} (hperm : xs.Perm ys)
    (hxs : xs.Pairwise Precedes) (hys : ys.Pairwise Precedes)
    (hstable : ∀ (t : Time.Moment) (id : UInt64),
      (xs.filter fun l => l.publishedAt = t ∧ l.id = id) =
        ys.filter fun l => l.publishedAt = t ∧ l.id = id) : xs = ys := by
  induction xs generalizing ys with
  | nil => exact hperm.nil_eq
  | cons x xs ih =>
    cases ys with
    | nil => exact absurd hperm.eq_nil (by simp)
    | cons y ys =>
      -- heads that differ would each stand behind the other, and so have time and id in common
      have hhead : x = y := by
        rcases List.mem_cons.mp (hperm.subset (List.mem_cons_self ..)) with hx | hx
        · exact hx
        rcases List.mem_cons.mp (hperm.symm.subset (List.mem_cons_self ..)) with hy | hy
        · exact hy.symm
        obtain ⟨htime, hid⟩ := (List.rel_of_pairwise_cons hxs hy).antisymm
          (List.rel_of_pairwise_cons hys hx)
        have hfirst := congrArg List.head? (hstable x.publishedAt x.id)
        simpa [List.filter_cons, htime, hid] using hfirst
      subst hhead
      have hrest : ∀ (t : Time.Moment) (id : UInt64),
          (xs.filter fun l => l.publishedAt = t ∧ l.id = id) =
            ys.filter fun l => l.publishedAt = t ∧ l.id = id := by
        intro t id
        have hlevel := hstable t id
        simp only [List.filter_cons] at hlevel
        split at hlevel
        · exact (List.cons.inj hlevel).2
        · exact hlevel
      rw [ih hperm.cons_inv hxs.of_cons hys.of_cons hrest]

namespace IsListing

variable {links list list' : List Link} {user : String} {f g : Filter}

theorem unique (h : IsListing links user f list) (h' : IsListing links user f list') :
    list = list' :=
  eq_of_pairwise_precedes (h.perm.trans h'.perm.symm) h.ordered h'.ordered fun t id =>
    (h.stable t id).trans (h'.stable t id).symm

theorem eq_sorted (h : IsListing links user f list) : list = sorted (matching links user f) :=
  h.unique (isListing_sorted links user f)

theorem narrow {p : Link → Bool} (hg : ∀ l, g.accepts l = (f.accepts l && p l))
    (h : IsListing links user f list) : IsListing links user g (list.filter p) := by
  have hlinks : (links.filter fun l => l.userId = user ∧ g.accepts l = true) =
      (links.filter fun l => l.userId = user ∧ f.accepts l = true).filter p := by
    rw [List.filter_filter]
    refine List.filter_congr fun l _ => ?_
    rw [Bool.eq_iff_iff]
    simp [hg, and_comm, and_left_comm]
  refine ⟨?_, h.ordered.filter p, fun t id => ?_⟩
  · rw [hlinks]
    exact h.perm.filter p
  · have hcomm : ∀ (q : Link → Bool) (xs : List Link),
        (xs.filter p).filter q = (xs.filter q).filter p := by
      intro q xs
      simp only [List.filter_filter, Bool.and_comm]
    rw [hlinks, hcomm, h.stable t id, hcomm]

end IsListing
end Link

namespace Page

/-- The page with this number among those of one size, the first one being number 0. -/
def numbered (size : UInt64) (number : Nat) : Page where
  offset := UInt64.ofNat (number * size.toNat)
  limit := some size

variable {α : Type}

/-- A page shows the list from its offset on, up to its limit. -/
theorem getElem?_cut (p : Page) (xs : List α) (i : Nat) :
    (p.cut xs)[i]? = if p.limit.all (i < ·.toNat) then xs[p.offset.toNat + i]? else none := by
  rcases p with ⟨offset, limit | n⟩
  · simp [cut]
  · simp [cut, List.getElem?_take]

theorem mem_of_mem_cut {p : Page} {xs : List α} {x : α} (h : x ∈ p.cut xs) : x ∈ xs := by
  obtain ⟨i, hi⟩ := List.mem_iff_getElem?.mp h
  rw [getElem?_cut] at hi
  split at hi
  · exact List.mem_of_getElem? hi
  · cases hi

theorem cut_numbered {size : UInt64} {number : Nat} (h : number * size.toNat < UInt64.size)
    (xs : List α) :
    (numbered size number).cut xs = (xs.drop (number * size.toNat)).take size.toNat := by
  simp only [cut, numbered, UInt64.toNat_ofNat_of_lt' h]

/-- Pages of one size are the list up to the end of the last one. -/
theorem flatten_cut_numbered {size : UInt64} {count : Nat}
    (h : ∀ k < count, k * size.toNat < UInt64.size) (xs : List α) :
    ((List.range count).map fun k => (numbered size k).cut xs).flatten =
      xs.take (count * size.toNat) := by
  induction count with
  | zero => simp
  | succ count ih =>
    have hbefore := ih fun k hk => h k (by omega)
    rw [List.range_succ, List.map_append, List.flatten_append, hbefore, List.map_singleton,
      List.flatten_singleton, cut_numbered (h count (by omega)), Nat.succ_mul, List.take_add]

end Page

namespace Shelf

theorem search_eq (links : List Link) (user : String) (f : Filter) (page : Page) :
    ({ links } : Shelf).search user f page =
      .ok (page.cut (Link.sorted (Link.matching links user f))) := rfl

/-- All searches of a user with one filter show parts of one list: a page is what its offset and
limit say, the pages of one size are all of the list, and the count is how long it is. -/
theorem search_shows_listing (links : List Link) (user : String) (f : Filter) :
    ∃ list, ({ links } : Shelf).search user f {} = .ok list ∧
      Link.IsListing links user f list ∧
      (∀ page, ∃ part, ({ links } : Shelf).search user f page = .ok part ∧
        ∀ i, part[i]? = if page.limit.all (i < ·.toNat) then list[page.offset.toNat + i]?
          else none) ∧
      (∀ (size : UInt64) (count : Nat), 0 < size → (∀ k < count, k * size.toNat < UInt64.size) →
        list.length ≤ count * size.toNat →
        ∃ pages, (List.range count).mapM
            (fun k => ({ links } : Shelf).search user f (Page.numbered size k)) = .ok pages ∧
          pages.flatten = list) ∧
      ({ links } : Shelf).count user f = .ok list.length := by
  refine ⟨Link.sorted (Link.matching links user f), rfl, Link.isListing_sorted links user f, ?_, ?_,
    ?_⟩
  · intro page
    exact ⟨_, search_eq links user f page, page.getElem?_cut _⟩
  · intro size count _ hoffsets hall
    refine ⟨_, List.mapM_pure, ?_⟩
    rw [Page.flatten_cut_numbered hoffsets, List.take_of_length_le hall]
  · rw [(Link.sorted_perm _).length_eq]
    rfl

def ofOneTime (ids : List UInt64) : List Link :=
  ids.map fun id =>
    { id, userId := "ann", title := "", url := "https://example.org/", tags := [], collections := []
      publishedAt := .yearOne }

def newOfOneTime : NewLink :=
  { userId := "ann", url := "https://example.org/", publishedAt := some .yearOne }

theorem search_shows_listing_of_one_time :
    (0 : UInt64) < 2 ∧ (∀ k < 2, k * (2 : UInt64).toNat < UInt64.size) ∧
    ∃ list pages, ({ links := ofOneTime [7, 2, 7] } : Shelf).search "ann" {} {} = .ok list ∧
      list.length ≤ 2 * (2 : UInt64).toNat ∧
      (List.range 2).mapM (fun k => ({ links := ofOneTime [7, 2, 7] } : Shelf).search "ann" {}
        (Page.numbered 2 k)) = .ok pages ∧
      pages.flatten = list := by
  obtain ⟨list, hlist, -, -, hpages, hcount⟩ :=
    search_shows_listing (ofOneTime [7, 2, 7]) "ann" {}
  have hlength : (3 : Nat) = list.length := Except.ok.inj hcount
  have hoffsets : ∀ k < 2, k * (2 : UInt64).toNat < UInt64.size := by decide
  have hall : list.length ≤ 2 * (2 : UInt64).toNat := by
    rw [← hlength]
    decide
  obtain ⟨pages, hshown, hflat⟩ := hpages 2 2 (by decide) hoffsets hall
  exact ⟨by decide, hoffsets, list, pages, hlist, hall, hshown, hflat⟩

end Shelf
end LinkShelf
