import LinkShelf.Proofs.Query.Seam
import LinkShelf.Proofs.Store.Listing
import LinkShelf.Proofs.Store.Search
import LinkShelf.Proofs.Store.Visibility

/-! Typing more. Behind white space every further condition takes links away from what is found and
leaves the others in order. -/
namespace LinkShelf
namespace Shelf

variable {links : List Link} {user input : String} {fallback : Bool} {q : Query}

theorem findString_listing (h : Query.ofString input = .ok q) :
    (({ links } : Shelf).searcher fallback).findString user input {} =
      .ok (Link.sorted (Link.matching links user (Filter.ofQuery q))) := by
  rw [Searcher.findString_of_ok h]
  rfl

theorem countString_listing (h : Query.ofString input = .ok q) :
    (({ links } : Shelf).searcher fallback).countString user input =
      .ok (Link.matching links user (Filter.ofQuery q)).length := by
  rw [Searcher.countString_of_ok h]
  rfl

variable {f g fg : Filter}

/-- A listing by two filters is what one of them lists and the other lists too. -/
theorem sorted_matching_both (hfg : ∀ l, fg.accepts l = (f.accepts l && g.accepts l))
    (links : List Link) (user : String) :
    Link.sorted (Link.matching links user fg) =
      (Link.sorted (Link.matching links user f)).filter
        (· ∈ Link.sorted (Link.matching links user g)) := by
  have hlisting := (Link.isListing_sorted links user f).narrow hfg
  rw [← hlisting.eq_sorted]
  refine List.filter_congr fun l hl => ?_
  have hmem : ∀ h : Filter, l ∈ Link.sorted (Link.matching links user h) ↔
      l ∈ links ∧ l.userId = user ∧ h.accepts l = true := by
    intro h
    rw [(Link.sorted_perm _).mem_iff]
    simp [Link.matching]
  obtain ⟨hlinks, huser, -⟩ := (hmem f).mp hl
  rw [Bool.eq_iff_iff, decide_eq_true_eq, hmem g]
  simp [hlinks, huser]

theorem length_matching_le (hfg : ∀ l, f.accepts l = true → g.accepts l = true)
    (links : List Link) (user : String) :
    (Link.matching links user f).length ≤ (Link.matching links user g).length := by
  simp only [Link.matching, ← List.countP_eq_length_filter]
  refine List.countP_mono_left fun l _ hl => ?_
  rw [Bool.and_eq_true] at hl ⊢
  exact ⟨hl.1, hfg l hl.2⟩

/-- A search string, white space and another search string find what both of them find, in the order
in which the first one finds it. They do not if the first one ends in a qualifier and the other one
gives it its text. -/
theorem findString_narrows {a b : String} {w : Char} (ha : Query.IsClosed a)
    (hw : Text.isWhite w = true) (hseam : ¬ (Query.EndsInQualifier a ∧ Query.BeginsWithText b))
    (links : List Link) (user : String) (fallback : Bool) :
    let s := ({ links } : Shelf).searcher fallback
    ∃ found others, s.findString user a {} = .ok found ∧ s.findString user b {} = .ok others ∧
      s.findString user (a.push w ++ b) {} = .ok (found.filter (· ∈ others)) ∧
      ∃ n m k, s.countString user a = .ok n ∧ s.countString user b = .ok m ∧
        s.countString user (a.push w ++ b) = .ok k ∧ k ≤ n ∧ k ≤ m := by
  intro s
  obtain ⟨cs, ds, hcs, hds, hboth⟩ := Query.conditions_push_append ha hw hseam
  have haccepts := Filter.accepts_ofQuery_append cs ds
  refine ⟨_, _, findString_listing hcs, findString_listing hds, ?_, _, _, _, countString_listing hcs,
    countString_listing hds, countString_listing hboth, ?_, ?_⟩
  · rw [findString_listing hboth, sorted_matching_both haccepts]
  · refine length_matching_le (fun l hl => ?_) links user
    rw [haccepts, Bool.and_eq_true] at hl
    exact hl.1
  · refine length_matching_le (fun l hl => ?_) links user
    rw [haccepts, Bool.and_eq_true] at hl
    exact hl.2

/-- A word of the first string is in quotes and a qualifier stands at its end, but the second one
begins with a tag. -/
theorem findString_narrows_at_tag :
    Query.IsClosed "\"\\\"Ä\" url:" ∧ Text.isWhite '\u2003' = true ∧
    ¬ (Query.EndsInQualifier "\"\\\"Ä\" url:" ∧ Query.BeginsWithText "-#a org") ∧
    ∃ found others,
      (({ links := [linkOf "ann" []] } : Shelf).searcher true).findString "ann"
        "\"\\\"Ä\" url:" {} = .ok found ∧
      (({ links := [linkOf "ann" []] } : Shelf).searcher true).findString "ann"
        "-#a org" {} = .ok others ∧
      (({ links := [linkOf "ann" []] } : Shelf).searcher true).findString "ann"
        ("\"\\\"Ä\" url:".push '\u2003' ++ "-#a org") {} =
          .ok (found.filter (· ∈ others)) := by
  have hclosed : Query.IsClosed "\"\\\"Ä\" url:" := by decide
  have hwhite : Text.isWhite '\u2003' = true := by decide
  have hseam : ¬ (Query.EndsInQualifier "\"\\\"Ä\" url:" ∧ Query.BeginsWithText "-#a org") := by
    rintro ⟨-, v, i, hhead⟩
    have hnot : (Query.tokenize "-#a org").head? = some ⟨.not, 0⟩ := by decide
    rw [hnot] at hhead
    cases hhead
  obtain ⟨found, others, hfound, hothers, hboth, -⟩ :=
    findString_narrows hclosed hwhite hseam [linkOf "ann" []] "ann" true
  exact ⟨hclosed, hwhite, hseam, found, others, hfound, hothers, hboth⟩

end Shelf
end LinkShelf
