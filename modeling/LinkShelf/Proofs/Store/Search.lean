import LinkShelf.Proofs.Query.Clauses
import LinkShelf.Store.Search

/-! Searching with a string: it asks the source for the filter of the query that the string is, and
there always is one. -/
namespace LinkShelf
namespace Searcher

variable {s : Searcher} {input : String} {q : Query}

theorem parse_of_ok (h : Query.parse (Query.tokenize input) = .ok q) :
    s.parse input = .ok (q, []) := by
  simp only [parse, parseTokens, h]

theorem findString_of_ok (h : Query.parse (Query.tokenize input) = .ok q) (user : String)
    (page : Page) :
    s.findString user input page =
      (s.source.search user (Filter.ofQuery q) page).mapError .store := by
  simp only [findString, parse_of_ok h, find]

theorem countString_of_ok (h : Query.parse (Query.tokenize input) = .ok q) (user : String) :
    s.countString user input = (s.source.count user (Filter.ofQuery q)).mapError .store := by
  simp only [countString, parse_of_ok h, count]

/-- A search string is always a query, whatever is searched and whether or not it may be taken as it
stands: there is no warning, and the source alone decides the answer and the error. -/
theorem string_is_query (input : String) :
    ∃ q, Query.parse (Query.tokenize input) = .ok q ∧ ∀ s : Searcher,
      s.parse input = .ok (q, []) ∧
      (∀ user page, s.findString user input page =
        (s.source.search user (Filter.ofQuery q) page).mapError .store) ∧
      ∀ user, s.countString user input =
        (s.source.count user (Filter.ofQuery q)).mapError .store := by
  obtain ⟨q, hq⟩ := Query.parse_tokenize input
  refine ⟨q, hq, fun s => ⟨parse_of_ok hq, ?_, ?_⟩⟩
  · intro user page
    exact findString_of_ok hq user page
  · intro user
    exact countString_of_ok hq user

end Searcher
end LinkShelf
