import LinkShelf.Query.Token

/-! What the scan does with one character, and what a finished word gives: each as one of few cases, so
that a property of the scan is proved by looking at these. -/
namespace LinkShelf
namespace Query
namespace Word

/-- What a finished word gives: nothing, the two tokens of a negated tag, a tag or a text. -/
inductive Gives (w : Word) : List Token → Prop
  | nothing (hletters : w.letters = []) : Gives w []
  | negated (name : List Char) (hw : w.literal = false) (hletters : w.letters = '-' :: '#' :: name)
    (hne : name ≠ []) (hname : ∀ c ∈ name, Text.isWordChar c = true) :
    Gives w [⟨.not, w.start.getD 0⟩, ⟨.tag (String.ofList name), w.start.getD 0 + 1⟩]
  | tag (name : List Char) (hw : w.literal = false) (hletters : w.letters = '#' :: name)
    (hne : name ≠ []) (hname : ∀ c ∈ name, Text.isWordChar c = true) :
    Gives w [⟨.tag (String.ofList name), w.start.getD 0⟩]
  | text (hletters : w.letters ≠ []) : Gives w [⟨.text (String.ofList w.letters), w.start.getD 0⟩]

theorem eq_of_readTag {cs name : List Char} {negated : Bool} (h : readTag cs = some (negated, name)) :
    cs = (if negated then ['-', '#'] else ['#']) ++ name ∧ name ≠ [] ∧
      ∀ c ∈ name, Text.isWordChar c = true := by
  unfold readTag at h
  split at h
  · split at h
    · rename_i hname
      cases h
      simpa using hname
    · cases h
  · split at h
    · rename_i hname
      cases h
      simpa using hname
    · cases h
  · cases h

theorem gives_tokens (w : Word) : w.Gives w.tokens := by
  simp only [tokens]
  split
  · rename_i hletters
    exact .nothing (by simpa using hletters)
  rename_i hletters
  have htag : ∀ {negated name}, (if w.literal then none else readTag w.letters) = some (negated, name) →
      w.literal = false ∧ readTag w.letters = some (negated, name) := by
    intro negated name h
    split at h
    · cases h
    · exact ⟨by simpa using ‹¬ w.literal = true›, h⟩
  split
  · rename_i name h
    obtain ⟨hw, hread⟩ := htag h
    obtain ⟨heq, hne, hname⟩ := eq_of_readTag hread
    exact .negated name hw heq hne hname
  · rename_i name h
    obtain ⟨hw, hread⟩ := htag h
    obtain ⟨heq, hne, hname⟩ := eq_of_readTag hread
    exact .tag name hw heq hne hname
  · exact .text (by simpa using hletters)

end Word

namespace Scan

/-- Reading the character `c` with index `i`, with the tokens that it completes and the state after it. -/
inductive Reads (i : Nat) (c : Char) : Scan → List Token → Scan → Prop
  | escaped (w : Word) (quoted : Bool) : Reads i c ⟨w, quoted, true⟩ [] ⟨w.push i c true, quoted, false⟩
  | backslash (w : Word) (quoted : Bool) (hc : c = '\\') :
    Reads i c ⟨w, quoted, false⟩ [] ⟨w, quoted, true⟩
  | closing (w : Word) (hc : c = '"') : Reads i c ⟨w, true, false⟩ [] ⟨w, false, false⟩
  | opening (w : Word) (hc : c = '"') : Reads i c ⟨w, false, false⟩ [] ⟨w.beginAt i, true, false⟩
  | quoted (w : Word) (hquote : c ≠ '"') : Reads i c ⟨w, true, false⟩ [] ⟨w.push i c true, true, false⟩
  | qualifier (w : Word) (q : Qualifier) (hw : w.literal = false)
    (hname : Qualifier.ofName? (String.ofList w.letters) = some q) :
    Reads i c ⟨w, false, false⟩ [⟨.qualifier q, w.start.getD i⟩] ⟨{}, false, false⟩
  | white (w : Word) (hc : Text.isWhite c = true) :
    Reads i c ⟨w, false, false⟩ w.tokens ⟨{}, false, false⟩
  | plain (w : Word) (hquote : c ≠ '"') :
    Reads i c ⟨w, false, false⟩ [] ⟨w.push i c false, false, false⟩

theorem reads_step (s : Scan) (i : Nat) (c : Char) : Reads i c s (s.step i c).1 (s.step i c).2 := by
  obtain ⟨w, quoted, escaped⟩ := s
  cases escaped with
  | true => exact .escaped w quoted
  | false =>
    by_cases hback : c = '\\'
    · simpa [step, hback] using Reads.backslash w quoted rfl
    by_cases hquote : c = '"'
    · cases quoted with
      | true => simpa [step, hquote] using Reads.closing w rfl
      | false => simpa [step, hquote] using Reads.opening w rfl
    cases quoted with
    | true => simpa [step, hback, hquote] using Reads.quoted w hquote
    | false =>
      simp only [step, hback, hquote, Bool.false_eq_true, if_false]
      split
      · rename_i hcolon
        split
        · rename_i q hname
          exact .qualifier w q hcolon.2 hname
        · exact .plain w hquote
      split
      · rename_i hwhite
        exact .white w hwhite
      · exact .plain w hquote

end Scan
end Query
end LinkShelf
