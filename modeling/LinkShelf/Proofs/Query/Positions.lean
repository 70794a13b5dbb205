import LinkShelf.Proofs.Query.Clauses
import LinkShelf.Proofs.Query.Steps

/-! Where the tokens of a search string start. A word starts where nothing of an earlier one is any more,
and it is longer than the distance between its tokens. So the tokens stand one behind the other, and the
end behind them all. -/
namespace LinkShelf
namespace Query

/-- The tokens stand one behind the other, none in front of `lo` and all in front of `hi`. -/
structure Between (lo hi : Nat) (ts : List Token) : Prop where
  increasing : ts.Pairwise fun t u => t.position < u.position
  lo_le : ∀ t ∈ ts, lo ≤ t.position
  lt_hi : ∀ t ∈ ts, t.position < hi

namespace Between

variable {lo mid hi p : Nat} {ts us : List Token}

theorem nil (lo hi : Nat) : Between lo hi [] := ⟨.nil, by simp, by simp⟩

theorem single {k : TokenKind} (hlo : lo ≤ p) (hhi : p < hi) : Between lo hi [⟨k, p⟩] :=
  ⟨List.pairwise_singleton _ _, by simpa, by simpa⟩

theorem append (ht : Between lo mid ts) (hu : Between mid hi us) (hlo : lo ≤ mid) (hhi : mid ≤ hi) :
    Between lo hi (ts ++ us) where
  increasing := by
    refine List.pairwise_append.mpr ⟨ht.increasing, hu.increasing, fun t hmt u hmu => ?_⟩
    exact Nat.lt_of_lt_of_le (ht.lt_hi t hmt) (hu.lo_le u hmu)
  lo_le := by
    intro t hmt
    rcases List.mem_append.mp hmt with hmt | hmt
    · exact ht.lo_le t hmt
    · exact Nat.le_trans hlo (hu.lo_le t hmt)
  lt_hi := by
    intro t hmt
    rcases List.mem_append.mp hmt with hmt | hmt
    · exact Nat.lt_of_lt_of_le (ht.lt_hi t hmt) hhi
    · exact hu.lt_hi t hmt

end Between

namespace Word

/-- The word starts at `lo` or behind it, and from its start on there is room for its letters in front
of `i`. A word that has not started yet would start at `i`. -/
def Fits (lo i : Nat) (w : Word) : Prop :=
  lo ≤ w.start.getD i ∧ w.start.getD i + w.letters.length ≤ i

namespace Fits

variable {lo i : Nat} {w : Word}

theorem empty (i : Nat) : ({} : Word).Fits i i := ⟨Nat.le_refl i, Nat.le_refl i⟩

theorem le (h : w.Fits lo i) : lo ≤ i := Nat.le_trans h.1 (Nat.le_of_add_right_le h.2)

theorem later (h : w.Fits lo i) : w.Fits lo (i + 1) := by
  obtain ⟨hlo, hroom⟩ := h
  unfold Fits
  cases hstart : w.start with
  | none =>
    rw [hstart, Option.getD_none] at hlo hroom
    exact ⟨Nat.le_succ_of_le hlo, by rw [Option.getD_none]; omega⟩
  | some p =>
    rw [hstart, Option.getD_some] at hlo hroom
    exact ⟨hlo, Nat.le_succ_of_le hroom⟩

theorem push (h : w.Fits lo i) (c : Char) (literal : Bool) : (w.push i c literal).Fits lo (i + 1) := by
  obtain ⟨hlo, hroom⟩ := h
  refine ⟨hlo, ?_⟩
  rw [Word.push, List.length_append, List.length_singleton, Option.getD_some]
  omega

theorem beginAt (h : w.Fits lo i) : (w.beginAt i).Fits lo (i + 1) :=
  ⟨h.1, Nat.le_succ_of_le h.2⟩

theorem exists_start (h : w.Fits lo i) (hw : w.letters ≠ []) :
    ∃ p, w.start = some p ∧ lo ≤ p ∧ p + w.letters.length ≤ i := by
  obtain ⟨hlo, hroom⟩ := h
  have hpos := List.length_pos_iff.mpr hw
  cases hstart : w.start with
  | none =>
    rw [hstart, Option.getD_none] at hroom
    omega
  | some p =>
    rw [hstart, Option.getD_some] at hlo hroom
    exact ⟨p, rfl, hlo, hroom⟩

/-- The tokens of a word stand where the word does. -/
theorem between (h : w.Fits lo i) {ts : List Token} (hts : w.Gives ts) : Between lo i ts := by
  cases hts with
  | nothing => exact .nil lo i
  | negated name _ hletters hne =>
    obtain ⟨p, hstart, hlo, hroom⟩ := h.exists_start (by simp [hletters])
    have hpos := List.length_pos_iff.mpr hne
    simp only [hletters, List.length_cons] at hroom
    rw [hstart, Option.getD_some]
    -- the tag is one behind its negation, and its name behind both
    have hnot : Between lo (p + 1) [⟨.not, p⟩] := .single hlo (Nat.lt_succ_self p)
    have htag : Between (p + 1) i [⟨.tag (String.ofList name), p + 1⟩] :=
      .single (Nat.le_refl _) (by omega)
    exact hnot.append htag (by omega) (by omega)
  | tag name _ hletters hne =>
    obtain ⟨p, hstart, hlo, hroom⟩ := h.exists_start (by simp [hletters])
    simp only [hletters, List.length_cons] at hroom
    rw [hstart, Option.getD_some]
    exact .single hlo (by omega)
  | text hletters =>
    obtain ⟨p, hstart, hlo, hroom⟩ := h.exists_start hletters
    have hpos := List.length_pos_iff.mpr hletters
    rw [hstart, Option.getD_some]
    exact .single hlo (by omega)

end Fits
end Word

theorem Qualifier.letters_of_ofName? {cs : List Char} {q : Qualifier}
    (h : ofName? (String.ofList cs) = some q) : cs = q.name.toList := by
  have hname := List.find?_some h
  rw [beq_iff_eq.mp hname, String.toList_ofList]

theorem Qualifier.letters_ne_nil {cs : List Char} {q : Qualifier}
    (h : ofName? (String.ofList cs) = some q) : cs ≠ [] := by
  rw [letters_of_ofName? h]
  cases q
  decide

namespace Scan

variable {s next : Scan} {lo i : Nat} {c : Char} {out : List Token}

theorem Reads.between (h : Reads i c s out next) (hs : s.word.Fits lo i) :
    ∃ mid, lo ≤ mid ∧ Between lo mid out ∧ next.word.Fits mid (i + 1) := by
  cases h with
  | escaped | quoted | plain => exact ⟨lo, Nat.le_refl lo, .nil lo lo, hs.push c _⟩
  | backslash | closing => exact ⟨lo, Nat.le_refl lo, .nil lo lo, hs.later⟩
  | opening => exact ⟨lo, Nat.le_refl lo, .nil lo lo, hs.beginAt⟩
  | qualifier w q _ hname =>
    obtain ⟨p, hstart, hlo, hroom⟩ := hs.exists_start (Qualifier.letters_ne_nil hname)
    refine ⟨i + 1, Nat.le_succ_of_le hs.le, ?_, Word.Fits.empty (i + 1)⟩
    simp only at hstart hroom
    rw [hstart, Option.getD_some]
    exact .single hlo (by omega)
  | white w =>
    have hword : Between lo i w.tokens := hs.between w.gives_tokens
    refine ⟨i + 1, Nat.le_succ_of_le hs.le, ?_, Word.Fits.empty (i + 1)⟩
    exact ⟨hword.increasing, hword.lo_le, fun t ht => Nat.lt_succ_of_lt (hword.lt_hi t ht)⟩

theorem run_between (hs : s.word.Fits lo i) (cs : List Char) :
    ∃ mid, lo ≤ mid ∧ Between lo mid (s.run i cs).1 ∧
      (s.run i cs).2.word.Fits mid (i + cs.length) := by
  induction cs generalizing s lo i with
  | nil => exact ⟨lo, Nat.le_refl lo, .nil lo lo, hs⟩
  | cons c cs ih =>
    obtain ⟨near, hnear, hout, hnext⟩ := (s.reads_step i c).between hs
    obtain ⟨mid, hmid, hrest, hend⟩ := ih hnext
    refine ⟨mid, Nat.le_trans hnear hmid, hout.append hrest hnear hmid, ?_⟩
    rwa [List.length_cons, Nat.add_left_comm, Nat.add_comm]

end Scan

theorem between_wordTokens (input : String) : Between 0 input.length (wordTokens input) := by
  obtain ⟨mid, hmid, hrun, hend⟩ := Scan.run_between (s := {}) (Word.Fits.empty 0) input.toList
  rw [Nat.zero_add, String.length_toList] at hend
  exact hrun.append (hend.between (Word.gives_tokens _)) hmid hend.le

theorem Clauses.not_endOfQuery {ts : List Token} (h : Clauses ts) : ∀ t ∈ ts, t.kind ≠ .endOfQuery := by
  induction h <;> simp_all

/-- The positions of the tokens are strictly increasing. All tokens but the last start in the search
string, and the last is the only end, one behind the string. -/
theorem positions_increase (input : String) :
    (tokenize input).Pairwise (fun t u => t.position < u.position) ∧
    ∃ ts, tokenize input = ts ++ [⟨.endOfQuery, input.length + 1⟩] ∧
      ∀ t ∈ ts, t.position < input.length ∧ t.kind ≠ .endOfQuery := by
  have hwords := between_wordTokens input
  have hend : Between input.length (input.length + 2)
      [(⟨.endOfQuery, input.length + 1⟩ : Token)] := .single (Nat.le_succ _) (Nat.lt_succ_self _)
  refine ⟨(hwords.append hend (Nat.zero_le _) (Nat.le_add_right _ _)).increasing, wordTokens input,
    tokenize_eq input, fun t ht => ⟨hwords.lt_hi t ht, ?_⟩⟩
  exact (clauses_wordTokens input).not_endOfQuery t ht

end Query
end LinkShelf
