import LinkShelf.Proofs.Filter.Meaning
import LinkShelf.Proofs.Link.Tags
import LinkShelf.Proofs.Store.Listing
import LinkShelf.Proofs.Store.Reload
import LinkShelf.Proofs.Store.Rows
import LinkShelf.Proofs.Text.Gaps

/-! What a restart leaves of a new link. Its tags are joined with commas in the file, and cut and
trimmed when it is read. So a tag that is no item comes back as others or not at all, and a search for
it misses the link from then on. Its time comes back as the file tells it. -/
namespace LinkShelf
namespace Link

variable {l : Link}

theorem reread_tags_iff : l.reread.tags = l.tags ↔ ∀ t ∈ l.tags, Text.IsItem t := by
  constructor
  · intro h t ht
    rw [← h] at ht
    exact Text.isItem_of_mem_items ht
  · exact Text.items_joinItems

theorem reread_eq_iff :
    l.reread = l ↔ (∀ t ∈ l.tags, Text.IsItem t) ∧ l.publishedAt.IsInstant := by
  rw [← reread_tags_iff, ← told_eq_iff]
  constructor
  · intro h
    refine ⟨congrArg tags h, ?_⟩
    have htime : (l.publishedAt.told : Time.Moment) = l.publishedAt := congrArg publishedAt h
    rw [told, htime]
  · rintro ⟨htags, htold⟩
    have hback : l.reread = { l.told with tags := l.reread.tags } := rfl
    rw [hback, htags, htold]

theorem map_reread_eq {links : List Link}
    (h : ∀ l ∈ links, (∀ t ∈ l.tags, Text.IsItem t) ∧ l.publishedAt.IsInstant) :
    links.map reread = links :=
  (List.map_congr_left fun l hl => reread_eq_iff.mpr (h l hl)).trans (List.map_id' links)

theorem accepts_requiredTag (l : Link) (t : String) :
    ({ requiredTags := [t] } : Filter).accepts l = Filter.hasTag l t := by
  simp [Filter.accepts]

theorem hasTag_reread_of_not_item {t : String} (h : ¬ Text.IsItem t) :
    Filter.hasTag l.reread t = false := by
  rw [Bool.eq_false_iff, ne_eq, Filter.hasTag_iff]
  rintro ⟨u, hu, hsame⟩
  have hitem : Text.IsItem (Text.lower u) :=
    (Text.isItem_lower u).mpr (Text.isItem_of_mem_items hu)
  rw [hsame, Text.isItem_lower] at hitem
  exact h hitem

end Link

namespace NewLink

/-- The tags that are given can be told apart when commas join them. -/
def HasItems (n : NewLink) : Prop := ∀ t ∈ n.tags.getD [], Text.IsItem t

instance (n : NewLink) : Decidable n.HasItems :=
  inferInstanceAs (Decidable (∀ t ∈ n.tags.getD [], Text.IsItem t))

theorem forall_isItem_tags_iff (n : NewLink) (id : UInt64) (now : Time.Moment) :
    (∀ t ∈ (n.toLink id now).tags, Text.IsItem t) ↔ n.HasItems := by
  constructor
  · intro h t ht
    obtain ⟨u, hu, hsame⟩ := exists_mem_distinctTags ht
    have hitem : Text.IsItem (Text.lower u) := (Text.isItem_lower u).mpr (h u hu)
    rwa [hsame, Text.isItem_lower] at hitem
  · intro h t ht
    exact h t (mem_of_mem_distinctTags ht)

theorem isInstant_toLink_iff (n : NewLink) (id : UInt64) (now : Time.Instant) :
    (n.toLink id now).publishedAt.IsInstant ↔ ∀ t ∈ n.publishedAt, t.IsInstant := by
  rcases n with ⟨_, _, _, _, _, _ | t⟩
  · exact iff_of_true now.isInstant (by simp)
  · simp [toLink]

end NewLink

namespace Shelf

variable {links : List Link} {l : Link}

theorem matching_concat (links : List Link) (l : Link) (f : Filter) :
    Link.matching (links ++ [l]) l.userId f =
      Link.matching links l.userId f ++ if f.accepts l then [l] else [] := by
  rw [Link.matching, List.filter_append]
  cases haccepts : f.accepts l <;> simp [Link.matching, haccepts]

theorem search_concat_inj {l' : Link} (huser : l'.userId = l.userId)
    (h : ({ links := links ++ [l'] } : Shelf).search l.userId {} {} =
      ({ links := links ++ [l] } : Shelf).search l.userId {} {}) : l' = l := by
  have hall : ∀ x : Link, ({} : Filter).accepts x = true := by simp [Filter.accepts]
  have hmatching := matching_concat links l {}
  have hmatching' := matching_concat links l' {}
  rw [huser] at hmatching'
  rw [hall, if_pos rfl] at hmatching hmatching'
  have hsorted : Link.sorted (Link.matching (links ++ [l']) l.userId {}) =
      Link.sorted (Link.matching (links ++ [l]) l.userId {}) := Except.ok.inj h
  have hperm := (Link.sorted_perm _).symm.trans (hsorted ▸ Link.sorted_perm _)
  rw [hmatching, hmatching', List.perm_append_left_iff] at hperm
  exact (List.singleton_inj.mp (List.perm_singleton.mp hperm)).symm

theorem count_requiredTag (links : List Link) (l : Link) (t : String) :
    ({ links := links ++ [l] } : Shelf).count l.userId { requiredTags := [t] } =
      .ok ((Link.matching links l.userId { requiredTags := [t] }).length +
        if Filter.hasTag l t then 1 else 0) := by
  have hcount : ({ links := links ++ [l] } : Shelf).count l.userId { requiredTags := [t] } =
      .ok (Link.matching (links ++ [l]) l.userId { requiredTags := [t] }).length := rfl
  rw [hcount, matching_concat, Link.accepts_requiredTag, List.length_append]
  cases Filter.hasTag l t <;> rfl

/-- A link is listed as it was when it is read back as it was. -/
theorem search_reread_iff (links : List Link) (l : Link) :
    (∀ flt page, ({ links := links ++ [l.reread] } : Shelf).search l.userId flt page =
        ({ links := links ++ [l] } : Shelf).search l.userId flt page) ↔
      (∀ t ∈ l.tags, Text.IsItem t) ∧ l.publishedAt.IsInstant := by
  rw [← Link.reread_eq_iff]
  constructor
  · exact fun hsame => search_concat_inj rfl (hsame {} {})
  · intro hback flt page
    rw [hback]

theorem count_told (links : List Link) (l : Link) (user : String) (flt : Filter) :
    ({ links := links ++ [l.told] } : Shelf).count user flt =
      ({ links := links ++ [l] } : Shelf).count user flt := by
  have hmatches : (l.told.userId == user && flt.accepts l.told) =
      (l.userId == user && flt.accepts l) := rfl
  simp only [count, Link.matching, List.filter_append, List.length_append,
    ← List.countP_eq_length_filter, List.countP_singleton, hmatches]

/-- A link is counted as it was when it is read back with its tags: one that is lost is missed. -/
theorem count_reread_iff (links : List Link) (l : Link) :
    (∀ flt, ({ links := links ++ [l.reread] } : Shelf).count l.userId flt =
        ({ links := links ++ [l] } : Shelf).count l.userId flt) ↔
      ∀ t ∈ l.tags, Text.IsItem t := by
  constructor
  · intro hsame t ht
    refine Decidable.byContradiction fun hnot => ?_
    have hbefore := count_requiredTag links l t
    have hafter : ({ links := links ++ [l.reread] } : Shelf).count l.userId
        { requiredTags := [t] } = _ := count_requiredTag links l.reread t
    have hfound : Filter.hasTag l t = true := Filter.hasTag_iff.mpr ⟨t, ht, rfl⟩
    rw [Link.hasTag_reread_of_not_item hnot, hsame, hbefore, hfound] at hafter
    exact Nat.succ_ne_self _ (Except.ok.inj hafter)
  · intro hitems flt
    have hback : l.reread = { l.told with tags := l.reread.tags } := rfl
    rw [hback, Link.reread_tags_iff.mpr hitems]
    exact count_told links l l.userId flt

end Shelf

namespace LinkFile

variable {f f' : LinkFile} {n : NewLink} {link : Link} {d e : Machine} {path : String}

theorem link_of_create
    (h : (create (m := StateM Machine) f n).run d = ((.ok link, f'), e)) :
    (∃ id, link = n.toLink id d.time) ∧ f'.shelf = { links := f.shelf.links ++ [link] } := by
  obtain ⟨hmade, -⟩ := create_ok h
  obtain ⟨id, -, hlink, hshelf⟩ := Shelf.create_ok hmade
  exact ⟨⟨id, hlink⟩, hshelf⟩

/-- A link was made on a file of links that holds what is in the file. If all times are in years of
four digits, and only then, the file can be loaded again, and all links but the new one come back as
they were. The new one comes back with the items of its tags. It has its tags, and every count of its
user is what it was before, exactly if all tags that were given for it are items. Every search of its
user finds what it found before if, besides, no time was given for it that no clock shows. -/
theorem tags_survive_iff
    (hsync : (load (m := StateM Machine) path).run d = (.ok f, d))
    (h : (create (m := StateM Machine) f n).run d = ((.ok link, f'), e)) :
    ((∃ g, (load (m := StateM Machine) path).run e = (.ok g, e)) ↔
      ∀ l ∈ f'.shelf.links, l.Dated) ∧
    ∀ g, (load (m := StateM Machine) path).run e = (.ok g, e) →
      g.shelf.links = f.shelf.links ++ [link.reread] ∧
      (link.reread.tags = link.tags ↔ n.HasItems) ∧
      ((∀ flt page, g.shelf.search link.userId flt page = f'.shelf.search link.userId flt page) ↔
        n.HasItems ∧ ∀ t ∈ n.publishedAt, t.IsInstant) ∧
      ((∀ flt, g.shelf.count link.userId flt = f'.shelf.count link.userId flt) ↔ n.HasItems) := by
  obtain ⟨bs, links, -, hlinks, rfl⟩ := table_of_load hsync
  obtain ⟨⟨id, hlink⟩, hshelf⟩ := link_of_create h
  have hload := load_of_save (save_of_create h)
  have hitems : (∀ t ∈ link.tags, Text.IsItem t) ↔ n.HasItems := by
    rw [hlink]
    exact n.forall_isItem_tags_iff id d.time
  have htime : link.publishedAt.IsInstant ↔ ∀ t ∈ n.publishedAt, t.IsInstant := by
    rw [hlink]
    exact n.isInstant_toLink_iff id d.time
  have hold : links.map Link.reread = links := Link.map_reread_eq (Table.tidy_of_read hlinks)
  simp only [List.map_append, hold, List.map_singleton] at hload
  rw [hshelf]
  by_cases hdated : ∀ l ∈ links ++ [link], l.Dated
  · rw [if_pos hdated] at hload
    refine ⟨⟨fun _ => hdated, fun _ => ⟨_, hload⟩⟩, ?_⟩
    intro g hg
    rw [hload] at hg
    cases hg
    exact ⟨rfl, Link.reread_tags_iff.trans hitems,
      (Shelf.search_reread_iff links link).trans (and_congr hitems htime),
      (Shelf.count_reread_iff links link).trans hitems⟩
  · rw [if_neg hdated] at hload
    refine ⟨⟨?_, fun hall => absurd hall hdated⟩, ?_⟩
    · rintro ⟨g, hg⟩
      rw [hload] at hg
      cases hg
    · intro g hg
      rw [hload] at hg
      cases hg

theorem load_withTable : (load (m := StateM Machine) "shelf/links.csv").run withTable =
    (.ok { path := "shelf/links.csv" }, withTable) :=
  load_in_shelf (Table.read_write (by simp))

def tagged : NewLink := { newcomer with tags := some ["A", "a", "two words"] }

theorem tags_survive_of_tagged :
    (load (m := StateM Machine) "shelf/links.csv").run withTable =
      (.ok { path := "shelf/links.csv" }, withTable) ∧
    ∃ link f' e,
      (create (m := StateM Machine) { path := "shelf/links.csv" } tagged).run withTable =
        ((.ok link, f'), e) ∧
      ∃ g, (load (m := StateM Machine) "shelf/links.csv").run e = (.ok g, e) ∧
        link.tags = ["A", "two words"] ∧ link.reread.tags = link.tags ∧
        ∀ flt, g.shelf.count link.userId flt = f'.shelf.count link.userId flt := by
  obtain ⟨f', e, hcreate⟩ := create_of_admits (f := { path := "shelf/links.csv" })
    (d := withTable) rfl rfl (admits_in_shelf _) tagged
  obtain ⟨hloads, hsurvive⟩ := tags_survive_iff load_withTable hcreate
  have hitems : tagged.HasItems := by decide
  have hdated : ∀ l ∈ f'.shelf.links, l.Dated := by
    rw [(link_of_create hcreate).2]
    exact List.forall_mem_singleton.mpr (by decide)
  obtain ⟨g, hg⟩ := hloads.mpr hdated
  obtain ⟨-, htags, -, hcounts⟩ := hsurvive g hg
  exact ⟨load_withTable, _, f', e, hcreate, g, hg, by decide +kernel, htags.mpr hitems,
    hcounts.mpr hitems⟩

def commaTagged : NewLink := { newcomer with tags := some ["a,b"] }

/-- The tag comes back as two others, and the link is not found by it any more. -/
theorem comma_tag_lost :
    (load (m := StateM Machine) "shelf/links.csv").run withTable =
      (.ok { path := "shelf/links.csv" }, withTable) ∧
    ∃ link f' e g,
      (create (m := StateM Machine) { path := "shelf/links.csv" } commaTagged).run withTable =
        ((.ok link, f'), e) ∧
      (load (m := StateM Machine) "shelf/links.csv").run e = (.ok g, e) ∧
      link.tags = ["a,b"] ∧ g.shelf.links.map Link.tags = [["a", "b"]] ∧
      f'.shelf.count "ann" { requiredTags := ["a,b"] } = .ok 1 ∧
      g.shelf.count "ann" { requiredTags := ["a,b"] } = .ok 0 := by
  obtain ⟨f', e, hcreate⟩ := create_of_admits (f := { path := "shelf/links.csv" })
    (d := withTable) rfl rfl (admits_in_shelf _) commaTagged
  have hload := load_of_save (save_of_create hcreate)
  have hdated : ∀ l ∈ [commaTagged.toLink 0 withTable.time], l.Dated :=
    List.forall_mem_singleton.mpr (by decide)
  rw [List.nil_append, if_pos hdated] at hload
  refine ⟨load_withTable, _, f', e, _, hcreate, hload, by decide +kernel, by decide +kernel, ?_, ?_⟩
  · rw [(link_of_create hcreate).2]
    exact (Shelf.count_requiredTag [] (commaTagged.toLink 0 withTable.time) "a,b").trans
      (congrArg Except.ok (by decide +kernel))
  · exact (Shelf.count_requiredTag [] (commaTagged.toLink 0 withTable.time).reread "a,b").trans
      (congrArg Except.ok (by decide +kernel))

end LinkFile
end LinkShelf
