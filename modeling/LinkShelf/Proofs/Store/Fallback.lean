import LinkShelf.Proofs.Query.Writing
import LinkShelf.Proofs.Store.Listing
import LinkShelf.Proofs.Store.Visibility

/-! Input that is searched as it stands. It finds what it would find in quotes: words are looked for
one by one, so it makes no difference that the one text is trimmed and the other one is not, nor that
a blank one is no condition at all. -/
namespace LinkShelf
namespace Filter

theorem hasWords_empty (l : Link) : hasWords l "" = true := rfl

theorem hasWords_trim (l : Link) (text : String) : hasWords l (Text.trim text) = hasWords l text := by
  rw [hasWords, hasWords, Text.trim, String.toList_ofList, Text.words_lowerChars_strip]

/-- One text asks for its words, of the links that are not hidden. -/
theorem accepts_ofQuery_text (text : String) (l : Link) :
    (ofQuery ⟨[.text text]⟩).accepts l = (!l.isNeverOnly && hasWords l text) := by
  simp [ofQuery, accepts, Query.select, Query.Condition.isKind, Query.Condition.value]

theorem accepts_ofQuery_nil (l : Link) : (ofQuery ⟨[]⟩).accepts l = !l.isNeverOnly := by
  simp [ofQuery, accepts, Query.select]

theorem accepts_literal (input : String) (l : Link) :
    (ofQuery (Query.literal input)).accepts l = (!l.isNeverOnly && hasWords l input) := by
  simp only [Query.literal]
  split
  · rename_i hblank
    have hwords : hasWords l input = true := by
      rw [← hasWords_trim, String.isEmpty_iff.mp hblank]
      exact hasWords_empty l
    rw [hwords, Bool.and_true]
    exact accepts_ofQuery_nil l
  · rw [accepts_ofQuery_text, hasWords_trim]

end Filter

namespace Query

/-- In quotes the input is one text with all its characters, or no condition if there are none. -/
theorem ofString_inQuotes (input : String) :
    ofString (inQuotes input) = .ok (if input = "" then ⟨[]⟩ else ⟨[.text input]⟩) := by
  by_cases hempty : input = ""
  · subst hempty
    exact ofString_of_words (q := ⟨[]⟩) (by decide)
  · have htypable : Typable ⟨[.text input]⟩ := by simpa [Typable, Condition.Typable] using hempty
    have hwritten : written inQuotes ⟨[.text input]⟩ = inQuotes input := by
      simp [written, Condition.written]
    rw [if_neg hempty, ← hwritten, ofString_written isLiteral_inQuotes htypable]

end Query

/-- In quotes the input asks for the words in it, too. -/
theorem Filter.accepts_inQuotes {input : String} {q : Query}
    (h : Query.ofString (Query.inQuotes input) = .ok q) (l : Link) :
    (ofQuery q).accepts l = (!l.isNeverOnly && hasWords l input) := by
  rw [Query.ofString_inQuotes] at h
  cases h
  split
  · rename_i hempty
    rw [hempty, hasWords_empty, Bool.and_true, accepts_ofQuery_nil]
  · exact accepts_ofQuery_text input l

namespace Shelf

variable {f g : Filter}

theorem matching_of_accepts (h : ∀ l, f.accepts l = g.accepts l) (links : List Link)
    (user : String) : Link.matching links user f = Link.matching links user g := by
  refine List.filter_congr fun l _ => ?_
  rw [h l]

/-- Input that is cut into tokens and refused is searched as it stands, if that is wanted, with a
warning. It finds the same links in the same order as the input in quotes, on every page, and as many
of them. -/
theorem fallback_finds_as_quoted {ts : List Query.Token} {e : Query.ParseError}
    (h : Query.parse ts = .error e) (input : String) (links : List Link) (user : String)
    (page : Page) :
    let s := ({ links } : Shelf).searcher true
    ∃ literal quoted found n,
      s.parseTokens input ts = .ok (literal, [Searcher.fallbackWarning input e]) ∧
      Query.ofString (Query.inQuotes input) = .ok quoted ∧
      s.find user literal page = .ok found ∧ s.find user quoted page = .ok found ∧
      s.count user literal = .ok n ∧ s.count user quoted = .ok n := by
  intro s
  have hquoted := Query.ofString_inQuotes input
  have hmatching := matching_of_accepts (fun l =>
    (Filter.accepts_literal input l).trans (Filter.accepts_inQuotes hquoted l).symm) links user
  refine ⟨Query.literal input, _, _, _, ?_, hquoted, rfl, ?_, rfl, ?_⟩
  · simp only [Searcher.parseTokens, h]
    rfl
  · rw [find_searcher, search_eq, hmatching]
    rfl
  · rw [count_searcher, count, hmatching]
    rfl

/-- The negation has no tag, and the input has white space, a quote and a backslash at its ends. -/
theorem fallback_finds_as_quoted_trimmed :
    let s := ({ links := [linkOf "ann" [], linkOf "ann" [.never]] } : Shelf).searcher true
    let e : Query.ParseError := .unexpectedToken ⟨.endOfQuery, 1⟩
    Query.parse [⟨.not, 0⟩, ⟨.endOfQuery, 1⟩] = .error e ∧
    ∃ literal quoted found n,
      s.parseTokens "\u3000\"ÄRGER\\ " [⟨.not, 0⟩, ⟨.endOfQuery, 1⟩] =
        .ok (literal, [Searcher.fallbackWarning "\u3000\"ÄRGER\\ " e]) ∧
      Query.ofString (Query.inQuotes "\u3000\"ÄRGER\\ ") = .ok quoted ∧
      s.find "ann" literal { limit := some 1 } = .ok found ∧
      s.find "ann" quoted { limit := some 1 } = .ok found ∧
      s.count "ann" literal = .ok n ∧ s.count "ann" quoted = .ok n := by
  intro s e
  have hrefused : Query.parse [⟨.not, 0⟩, ⟨.endOfQuery, 1⟩] = .error e := rfl
  exact ⟨hrefused, fallback_finds_as_quoted hrefused "\u3000\"ÄRGER\\ "
    [linkOf "ann" [], linkOf "ann" [.never]] "ann" { limit := some 1 }⟩

end Shelf
end LinkShelf
