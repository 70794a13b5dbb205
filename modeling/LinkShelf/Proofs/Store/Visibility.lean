import LinkShelf.Proofs.Filter.Meaning
import LinkShelf.Proofs.Time.Order
import LinkShelf.Store.Search

/-! What a user can see of a shelf. Whatever is searched, the answer depends on the user's own links
alone, and of these on the ones that are not hidden. -/
namespace LinkShelf
namespace Link

/-- The links that a user may see, in the order in which they are kept. -/
def visible (links : List Link) (user : String) : List Link :=
  links.filter fun l => l.userId == user && !l.isNeverOnly

end Link

theorem Filter.isNeverOnly_of_accepts {f : Filter} (hf : f.hidesNeverOnly = true) {l : Link}
    (h : f.accepts l = true) : l.isNeverOnly = false := by
  have hnever := (accepts_iff.mp h).1 hf
  rw [← Link.isNeverOnly_iff] at hnever
  simpa using hnever

namespace Link

theorem matching_visible {f : Filter} (hf : f.hidesNeverOnly = true) (links : List Link)
    (user : String) : matching (visible links user) user f = matching links user f := by
  rw [matching, visible, List.filter_filter]
  refine List.filter_congr fun l _ => ?_
  rw [Bool.eq_iff_iff]
  simp only [Bool.and_eq_true, Bool.not_eq_true']
  constructor
  · rintro ⟨hmatch, -⟩
    exact hmatch
  · rintro ⟨huser, haccepts⟩
    exact ⟨⟨huser, haccepts⟩, huser, Filter.isNeverOnly_of_accepts hf haccepts⟩

end Link

namespace Shelf

variable {s t : Shelf} {user : String} {f : Filter}

theorem matching_congr (h : Link.visible s.links user = Link.visible t.links user)
    (hf : f.hidesNeverOnly = true) :
    Link.matching s.links user f = Link.matching t.links user f := by
  rw [← Link.matching_visible hf, h, Link.matching_visible hf]

theorem search_congr (hbroken : s.broken = t.broken)
    (h : Link.visible s.links user = Link.visible t.links user) (hf : f.hidesNeverOnly = true)
    (page : Page) : s.search user f page = t.search user f page := by
  rw [search, search, hbroken, matching_congr h hf]

theorem count_congr (hbroken : s.broken = t.broken)
    (h : Link.visible s.links user = Link.visible t.links user) (hf : f.hidesNeverOnly = true) :
    s.count user f = t.count user f := by
  rw [count, count, hbroken, matching_congr h hf]

theorem mem_matching_of_search {page : Page} {found : List Link}
    (h : s.search user f page = .ok found) {l : Link} (hl : l ∈ found) :
    l ∈ Link.matching s.links user f := by
  unfold search at h
  split at h
  · cases h
  · cases h
    have hcut : ∀ xs : List Link, l ∈ page.cut xs → l ∈ xs := by
      intro xs hx
      unfold Page.cut at hx
      split at hx
      · exact List.mem_of_mem_drop (List.mem_of_mem_take hx)
      · exact List.mem_of_mem_drop hx
    exact List.mem_mergeSort.mp (hcut _ hl)

def searcher (s : Shelf) (fallback : Bool) : Searcher := ⟨s.source, fallback⟩

variable {fallback : Bool}

theorem find_searcher (s : Shelf) (fallback : Bool) (user : String) (q : Query) (page : Page) :
    (s.searcher fallback).find user q page =
      (s.search user (Filter.ofQuery q) page).mapError .store := rfl

theorem count_searcher (s : Shelf) (fallback : Bool) (user : String) (q : Query) :
    (s.searcher fallback).count user q = (s.count user (Filter.ofQuery q)).mapError .store := rfl

/-- The string alone decides which query is asked. -/
theorem parse_searcher (s t : Shelf) (fallback : Bool) (input : String) :
    (s.searcher fallback).parse input = (t.searcher fallback).parse input := rfl

theorem visible_of_find {q : Query} {page : Page} {found : List Link}
    (h : (s.searcher fallback).find user q page = .ok found) :
    ∀ l ∈ found, l.userId = user ∧ ¬ l.NeverOnly := by
  intro l hl
  rw [find_searcher] at h
  cases hsearch : s.search user (Filter.ofQuery q) page with
  | error e =>
    rw [hsearch] at h
    cases h
  | ok links =>
    rw [hsearch] at h
    cases h
    have hmatch := mem_matching_of_search hsearch hl
    simp only [Link.matching, List.mem_filter, Bool.and_eq_true, beq_iff_eq] at hmatch
    exact ⟨hmatch.2.1, (Filter.accepts_iff.mp hmatch.2.2).1 rfl⟩

/-- Two shelves that a user sees the same of answer each question of this user alike, and show
nothing but what the user may see. Neither of them is broken, or both are. -/
theorem answers_of_visible (hbroken : s.broken = t.broken)
    (h : Link.visible s.links user = Link.visible t.links user) (fallback : Bool) :
    (∀ q page, (s.searcher fallback).find user q page = (t.searcher fallback).find user q page) ∧
    (∀ input page, (s.searcher fallback).findString user input page =
      (t.searcher fallback).findString user input page) ∧
    (∀ q, (s.searcher fallback).count user q = (t.searcher fallback).count user q) ∧
    (∀ input, (s.searcher fallback).countString user input =
      (t.searcher fallback).countString user input) ∧
    (∀ q page found, (s.searcher fallback).find user q page = .ok found →
      ∀ l ∈ found, l.userId = user ∧ ¬ l.NeverOnly) ∧
    (∀ input page found, (s.searcher fallback).findString user input page = .ok found →
      ∀ l ∈ found, l.userId = user ∧ ¬ l.NeverOnly) := by
  have hfind : ∀ q page,
      (s.searcher fallback).find user q page = (t.searcher fallback).find user q page := by
    intro q page
    have hhides : (Filter.ofQuery q).hidesNeverOnly = true := rfl
    rw [find_searcher, find_searcher, search_congr hbroken h hhides]
  have hcount : ∀ q, (s.searcher fallback).count user q = (t.searcher fallback).count user q := by
    intro q
    have hhides : (Filter.ofQuery q).hidesNeverOnly = true := rfl
    rw [count_searcher, count_searcher, count_congr hbroken h hhides]
  refine ⟨hfind, ?_, hcount, ?_, fun q page found => visible_of_find, ?_⟩
  · intro input page
    simp only [Searcher.findString, parse_searcher s t, hfind]
  · intro input
    simp only [Searcher.countString, parse_searcher s t, hcount]
  · intro input page found hfound
    unfold Searcher.findString at hfound
    split at hfound
    · exact visible_of_find hfound
    · cases hfound

def linkOf (userId : String) (collections : List Collection) : Link where
  id := 0
  userId := userId
  title := "Ärger"
  url := "https://example.org/"
  tags := ["a"]
  collections := collections
  publishedAt := .yearOne

/-- What others keep, and what is hidden, does not show. -/
theorem answers_of_visible_among_others :
    let s : Shelf := { links := [linkOf "ann" [.never, .read], linkOf "bob" []] }
    let t : Shelf := { links := [linkOf "ann" [.never], linkOf "bo" [.news],
      linkOf "ann" [.never, .read]] }
    s.broken = t.broken ∧ Link.visible s.links "ann" = Link.visible t.links "ann" ∧
    ∀ input page, (s.searcher true).findString "ann" input page =
      (t.searcher true).findString "ann" input page := by
  intro s t
  have hvisible : Link.visible s.links "ann" = Link.visible t.links "ann" := by decide
  exact ⟨rfl, hvisible, (answers_of_visible rfl hvisible true).2.1⟩

end Shelf
end LinkShelf
