import LinkShelf.Proofs.Filter.Meaning
import LinkShelf.Proofs.Text.Gaps
import LinkShelf.Proofs.Time.Order

/-! Texts that occur in a link as they are typed. A filter finds them where their capital sigmas are
lowered as they are alone. A sigma at the end of a text, or at its front, can be lowered in another way
where the text occurs, and then the text is not found there. -/
namespace LinkShelf
namespace Filter

variable {l : Link} {p w : String} {a b : List Char} {hides : Bool}

theorem mentions_of_kept {text : String} (htext : text.toList = a ++ p.toList ++ b)
    (h : Text.SigmasKept a p.toList b) : mentions text p = true := by
  rw [mentions_iff, htext]
  exact Text.lowerChars_infix_of_kept h

/-- A text is found in every text that it occurs in, exactly if none of its sigmas is open. -/
theorem forall_mentions_iff (p : String) :
    (∀ text : String, p.toList <:+: text.toList → mentions text p = true) ↔
      ¬ Text.HasOpenSigma p.toList := by
  rw [← Text.forall_infix_iff]
  constructor
  · intro h a b
    have hfound := h (String.ofList (a ++ p.toList ++ b)) ⟨a, b, by rw [String.toList_ofList]⟩
    rwa [mentions_iff, String.toList_ofList] at hfound
  · rintro h text ⟨a, b, htext⟩
    rw [mentions_iff, ← htext]
    exact h a b

theorem accepts_urlPart (hl : ¬ l.NeverOnly) :
    ({ urlParts := [p], hidesNeverOnly := hides } : Filter).accepts l = mentions l.url p := by
  rw [← Link.isNeverOnly_iff, Bool.not_eq_true] at hl
  simp [accepts, hl]

theorem hasWords_of_none (hw : ∀ c ∈ w.toList, Text.isWhite c = false) (l : Link) :
    hasWords l w = (mentions l.title w || mentions l.url w) := by
  rw [hasWords, Text.words_lowerChars_of_none hw, mentions, mentions]
  split
  · rename_i hempty
    have hfound : ∀ cs, Text.occursIn [] cs = true := fun cs =>
      Text.occursIn_iff.mpr (List.nil_infix)
    rw [hempty, Text.lowerChars_nil, hfound]
    rfl
  · rw [List.all_cons, List.all_nil, Bool.and_true]

theorem accepts_word (hl : ¬ l.NeverOnly) (hw : ∀ c ∈ w.toList, Text.isWhite c = false) :
    ({ text := some w, hidesNeverOnly := hides } : Filter).accepts l =
      (mentions l.title w || mentions l.url w) := by
  rw [← Link.isNeverOnly_iff, Bool.not_eq_true] at hl
  simp [accepts, hl, hasWords_of_none hw]

def linkTitled (title url : String) : Link where
  id := 0
  userId := "ann"
  title := title
  url := url
  tags := []
  collections := []
  publishedAt := .yearOne

theorem not_neverOnly_linkTitled (title url : String) : ¬ (linkTitled title url).NeverOnly :=
  fun h => h.1 rfl

/-- A link is found by a part of its url, and by a word of its title or url, that occurs there with its
capital sigmas lowered as they are alone. A text is found wherever it occurs exactly if none of its
sigmas is open. -/
theorem occurrence_accepted_iff (hides : Bool) (p : String) {w : String}
    (hw : ∀ c ∈ w.toList, Text.isWhite c = false) :
    (∀ l : Link, ¬ l.NeverOnly → ∀ a b, l.url.toList = a ++ p.toList ++ b →
      Text.SigmasKept a p.toList b →
        ({ urlParts := [p], hidesNeverOnly := hides } : Filter).accepts l = true) ∧
    (∀ l : Link, ¬ l.NeverOnly → ∀ a b,
      l.title.toList = a ++ w.toList ++ b ∨ l.url.toList = a ++ w.toList ++ b →
        Text.SigmasKept a w.toList b →
          ({ text := some w, hidesNeverOnly := hides } : Filter).accepts l = true) ∧
    ((∀ l : Link, ¬ l.NeverOnly → p.toList <:+: l.url.toList →
      ({ urlParts := [p], hidesNeverOnly := hides } : Filter).accepts l = true) ↔
        ¬ Text.HasOpenSigma p.toList) ∧
    ((∀ l : Link, ¬ l.NeverOnly → w.toList <:+: l.title.toList ∨ w.toList <:+: l.url.toList →
      ({ text := some w, hidesNeverOnly := hides } : Filter).accepts l = true) ↔
        ¬ Text.HasOpenSigma w.toList) := by
  refine ⟨?_, ?_, ?_, ?_⟩
  · intro l hl a b hurl hkept
    rw [accepts_urlPart hl, mentions_of_kept hurl hkept]
  · intro l hl a b hplace hkept
    rw [accepts_word hl hw]
    rcases hplace with htitle | hurl
    · rw [mentions_of_kept htitle hkept, Bool.true_or]
    · rw [mentions_of_kept hurl hkept, Bool.or_true]
  · rw [← forall_mentions_iff]
    constructor
    · intro h text hp
      have hfound := h (linkTitled "" text) (not_neverOnly_linkTitled "" text) hp
      rwa [accepts_urlPart (not_neverOnly_linkTitled "" text)] at hfound
    · intro h l hl hp
      rw [accepts_urlPart hl]
      exact h l.url hp
  · rw [← forall_mentions_iff]
    constructor
    · intro h text hp
      -- the same text as title and as url
      have hfound := h (linkTitled text text) (not_neverOnly_linkTitled text text) (.inl hp)
      rw [accepts_word (not_neverOnly_linkTitled text text) hw] at hfound
      simpa [linkTitled] using hfound
    · intro h l hl hp
      rw [accepts_word hl hw, Bool.or_eq_true]
      exact hp.imp (h l.title) (h l.url)

theorem not_white_of_any (h : w.toList.any Text.isWhite = false) :
    ∀ c ∈ w.toList, Text.isWhite c = false := by
  simpa using h

theorem sigmasKept_before_slash :
    Text.SigmasKept "https://example.org/".toList "ΟΔΟΣ".toList "/".toList := by decide +kernel

theorem occurrence_accepted_before_slash :
    (∀ c ∈ "ΟΔΟΣ".toList, Text.isWhite c = false) ∧
    ¬ (linkTitled "" "https://example.org/ΟΔΟΣ/").NeverOnly ∧
    Text.SigmasKept "https://example.org/".toList "ΟΔΟΣ".toList "/".toList ∧
    ({ urlParts := ["ΟΔΟΣ"], hidesNeverOnly := true } : Filter).accepts
      (linkTitled "" "https://example.org/ΟΔΟΣ/") = true ∧
    ({ text := some "ΟΔΟΣ", hidesNeverOnly := true } : Filter).accepts
      (linkTitled "" "https://example.org/ΟΔΟΣ/") = true := by
  have hw := not_white_of_any (w := "ΟΔΟΣ") (by decide)
  have hl := not_neverOnly_linkTitled "" "https://example.org/ΟΔΟΣ/"
  obtain ⟨hurl, hword, -, -⟩ := occurrence_accepted_iff true "ΟΔΟΣ" hw
  exact ⟨hw, hl, sigmasKept_before_slash, hurl _ hl _ _ rfl sigmasKept_before_slash,
    hword _ hl _ _ (.inr rfl) sigmasKept_before_slash⟩

/-- In front of a letter the sigma of a word is none at its end. The link has the word in its url and
its title, and is not found by it. -/
theorem final_sigma_not_found :
    let l := linkTitled "ΑΣΑ" "https://example.org/ΑΣΑ"
    ¬ l.NeverOnly ∧ "ΑΣ".toList <:+: l.url.toList ∧ "ΑΣ".toList <:+: l.title.toList ∧
    (∀ c ∈ "ΑΣ".toList, Text.isWhite c = false) ∧
    ({ urlParts := ["ΑΣ"] } : Filter).accepts l = false ∧
    ({ text := some "ΑΣ" } : Filter).accepts l = false := by
  refine ⟨not_neverOnly_linkTitled _ _, ⟨"https://example.org/".toList, "Α".toList, rfl⟩,
    ⟨[], "Α".toList, rfl⟩, not_white_of_any (by decide), ?_, ?_⟩ <;> decide +kernel

end Filter
end LinkShelf
