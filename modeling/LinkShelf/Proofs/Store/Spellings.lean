import LinkShelf.Proofs.Filter.Meaning
import LinkShelf.Proofs.Link.Tags
import LinkShelf.Proofs.Store.History

/-! The tags of a link that was made: of those given for it the first spellings, in order. Searches do
not tell them from the tags that were given, since a filter asks for a tag in any spelling. -/
namespace LinkShelf
namespace Filter

/-- A filter sees of the tags only which lowercases there are. -/
theorem accepts_retagged {l : Link} {ts us : List String}
    (h : ∀ key, (∃ t ∈ ts, Text.lower t = key) ↔ ∃ u ∈ us, Text.lower u = key) (f : Filter) :
    f.accepts { l with tags := ts } = f.accepts { l with tags := us } := by
  have htag : hasTag { l with tags := ts } = hasTag { l with tags := us } := by
    funext tag
    rw [Bool.eq_iff_iff, hasTag_iff, hasTag_iff]
    exact h (Text.lower tag)
  simp only [accepts, htag]
  rfl

end Filter

namespace NewLink

variable {n : NewLink} {l : Link}

/-- The link was made of what is given, on a shelf or in a file of links. -/
def Makes (n : NewLink) (l : Link) : Prop :=
  (∃ (s s' : Shelf) (now : Time.Moment), s.create n now = (.ok l, s')) ∨
  ∃ (f f' : LinkFile) (d e : Machine),
    (LinkFile.create (m := StateM Machine) f n).run d = ((.ok l, f'), e)

theorem Makes.eq_toLink (h : n.Makes l) : ∃ id now, l = n.toLink id now := by
  rcases h with ⟨s, s', now, hmade⟩ | ⟨f, f', d, e, hmade⟩
  · obtain ⟨id, -, hl, -⟩ := Shelf.create_ok hmade
    exact ⟨id, now, hl⟩
  · obtain ⟨id, -, hl, -⟩ := Shelf.create_ok (LinkFile.create_ok hmade).1
    exact ⟨id, d.time, hl⟩

/-- A link that was made has the first spellings of the tags given for it. No two of them have one
lowercase, each tag that was given is there in a spelling, and no filter tells the link from the same
link with all the tags that were given. -/
theorem tags_of_made (h : n.Makes l) :
    l.tags = firstSpellings (n.tags.getD []) ∧
    (l.tags.map Text.lower).Nodup ∧
    (∀ t ∈ n.tags.getD [], ∃ u ∈ l.tags, Text.lower u = Text.lower t) ∧
    ∀ f : Filter, f.accepts l = f.accepts { l with tags := n.tags.getD [] } := by
  obtain ⟨id, now, rfl⟩ := h.eq_toLink
  have hkept : (n.toLink id now).tags = distinctTags [] (n.tags.getD []) := rfl
  have hsame : ∀ key, (∃ t ∈ (n.toLink id now).tags, Text.lower t = key) ↔
      ∃ u ∈ n.tags.getD [], Text.lower u = key := by
    intro key
    constructor
    · rintro ⟨t, ht, hkey⟩
      exact ⟨t, mem_of_mem_distinctTags ht, hkey⟩
    · rintro ⟨u, hu, hkey⟩
      obtain ⟨t, ht, hlower⟩ := exists_mem_distinctTags hu
      exact ⟨t, ht, hlower.trans hkey⟩
  refine ⟨by rw [hkept, distinctTags_eq], ?_, fun t ht => exists_mem_distinctTags ht, fun f => ?_⟩
  · rw [hkept]
    exact nodup_map_lower_distinctTags [] _
  · exact f.accepts_retagged (l := n.toLink id now) hsame

/-- Tags in several spellings, one of them with a sigma that is lowered in two ways. -/
def spelled : NewLink where
  userId := "ann"
  url := "https://example.org/"
  tags := some ["Wiki", "ΟΔΟΣ", "wiki", "οδος", "WIKI", "οδοσ"]

theorem tags_of_made_spelled :
    let l := spelled.toLink 0 LinkFile.oneDirectory.time
    spelled.Makes l ∧ l.tags = ["Wiki", "ΟΔΟΣ", "οδοσ"] ∧
    ∀ f : Filter, f.accepts l =
      f.accepts { l with tags := ["Wiki", "ΟΔΟΣ", "wiki", "οδος", "WIKI", "οδοσ"] } := by
  intro l
  have hmade : spelled.Makes l := .inl ⟨{}, _, LinkFile.oneDirectory.time, rfl⟩
  obtain ⟨htags, -, -, hfilters⟩ := tags_of_made hmade
  have hfirst : firstSpellings (spelled.tags.getD []) = ["Wiki", "ΟΔΟΣ", "οδοσ"] := by
    decide +kernel
  exact ⟨hmade, htags.trans hfirst, hfilters⟩

end NewLink
end LinkShelf
