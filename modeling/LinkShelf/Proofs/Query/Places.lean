import LinkShelf.Proofs.Query.Positions
import LinkShelf.Proofs.Query.Seam

/-! What stands in a search string where its tokens start. A text starts at its first character or at the
quote that opens its word. Every other token is a word without literal characters, so that no quotes but
empty ones are in it: without these it starts at its own first character, and in front of it or in its
middle they are what its position says instead. -/
namespace LinkShelf
namespace Query

/-- In front of the character with index `p` the scan has nothing of a word, and no quote or escape is
open. -/
def BeginsAt (input : List Char) (p : Nat) : Prop := (Scan.run {} 0 (input.take p)).2 = {}

instance (input : List Char) (p : Nat) : Decidable (BeginsAt input p) :=
  inferInstanceAs (Decidable (_ = _))

/-- The quote that opens a word is at `p`. -/
def OpensWord (input : List Char) (p : Nat) : Prop := BeginsAt input p ∧ input[p]? = some '"'

instance (input : List Char) (p : Nat) : Decidable (OpensWord input p) :=
  inferInstanceAs (Decidable (_ ∧ _))

/-- The character with index `p` is outside quotes, and no escape takes it. -/
def OutsideAt (input : List Char) (p : Nat) : Prop :=
  (Scan.run {} 0 (input.take p)).2.quoted = false ∧ (Scan.run {} 0 (input.take p)).2.escaped = false

instance (input : List Char) (p : Nat) : Decidable (OutsideAt input p) :=
  inferInstanceAs (Decidable (_ ∧ _))

def EmptyQuotesAt (input : List Char) (p : Nat) : Prop :=
  OutsideAt input p ∧ ['"', '"'] <+: input.drop p

instance (input : List Char) (p : Nat) : Decidable (EmptyQuotesAt input p) :=
  inferInstanceAs (Decidable (_ ∧ _))

namespace Token

/-- Where the token starts is its own first character, or for a text the quote that opens its word. -/
def PointsInto (input : List Char) (t : Token) : Prop :=
  match t.kind with
  | .text v => v ≠ "" ∧ input[t.position]? = v.toList.head? ∨ OpensWord input t.position
  | .qualifier q => input[t.position]? = q.name.toList.head?
  | .tag _ => input[t.position]? = some '#'
  | .not => input[t.position]? = some '-'
  | .endOfQuery => True

instance (input : List Char) (t : Token) : Decidable (t.PointsInto input) :=
  match t with
  | ⟨.text _, _⟩ => inferInstanceAs (Decidable (_ ∧ _ ∨ _))
  | ⟨.qualifier _, _⟩ | ⟨.tag _, _⟩ | ⟨.not, _⟩ => inferInstanceAs (Decidable (_ = _))
  | ⟨.endOfQuery, _⟩ => inferInstanceAs (Decidable True)

/-- The token is no text, and it starts at one of two quotes with nothing between them. -/
def AtEmptyQuotes (input : List Char) (t : Token) : Prop :=
  (∀ v, t.kind ≠ .text v) ∧
    ∃ p, EmptyQuotesAt input p ∧ (t.position = p ∨ t.position = p + 1)

end Token

/-- The characters of a word without literal ones: its letters, and empty quotes between them. -/
inductive Bare : List Char → List Char → Prop
  | nil : Bare [] []
  | letter {c : Char} {cs ls : List Char} (hc : c ≠ '"') : Bare cs ls → Bare (c :: cs) (c :: ls)
  | quotes {cs ls : List Char} : Bare cs ls → Bare ('"' :: '"' :: cs) ls

namespace Bare

variable {as bs cs ls ms : List Char} {a : Char}

theorem append (ha : Bare as ls) (hb : Bare bs ms) : Bare (as ++ bs) (ls ++ ms) := by
  induction ha with
  | nil => exact hb
  | letter hc _ ih => exact .letter hc ih
  | quotes _ ih => exact .quotes ih

theorem concat (h : Bare cs ls) (ha : a ≠ '"') : Bare (cs ++ [a]) (ls ++ [a]) :=
  h.append (.letter ha .nil)

theorem concat_quotes (h : Bare cs ls) : Bare (cs ++ ['"', '"']) ls := by
  simpa using h.append (.quotes .nil)

theorem front (h : Bare cs (a :: ls)) :
    (∃ rest, cs = a :: rest ∧ Bare rest ls) ∨ ['"', '"'] <+: cs := by
  cases h with
  | letter _ hrest => exact .inl ⟨_, rfl, hrest⟩
  | quotes => exact .inr (by simp)

end Bare

theorem Word.start_cases {w : Word} {i p : Nat} (h : some (w.start.getD i) = some p) :
    w.start = none ∧ i = p ∨ w.start = some p := by
  cases hstart : w.start with
  | none => exact .inl ⟨rfl, by simpa [hstart] using h⟩
  | some b => exact .inr (by simpa [hstart] using h)

namespace Scan

/-- The quote and the backslash that have been read last, as long as they wait for something. -/
def opened (s : Scan) : List Char :=
  (if s.quoted then ['"'] else []) ++ (if s.escaped then ['\\'] else [])

/-- What is in the input where the word starts, when the scan is in front of the character with
index `i`. -/
structure Stands (input : List Char) (i : Nat) (s : Scan) : Prop where
  reached : (Scan.run {} 0 (input.take i)).2 = s
  fresh : s.word.start = none → s.word = {} ∧ s.quoted = false
  first : ∀ p, s.word.start = some p →
    s.word.letters ≠ [] ∧ input[p]? = s.word.letters.head? ∨ OpensWord input p
  bare : ∀ p, s.word.start = some p → s.word.literal = false →
    BeginsAt input p ∧ ∃ cs, Bare cs s.word.letters ∧ input.drop p = cs ++ (s.opened ++ input.drop i)

namespace Stands

variable {input : List Char} {i : Nat} {c : Char} {w : Word} {s next : Scan} {out : List Token}

theorem begin (input : List Char) : Stands input 0 {} :=
  ⟨rfl, fun _ => ⟨rfl, rfl⟩, by simp, by simp⟩

theorem beginsAt_of_none (hs : Stands input i ⟨w, false, false⟩) (hstart : w.start = none) :
    w.letters = [] ∧ BeginsAt input i := by
  obtain ⟨hw, -⟩ := hs.fresh hstart
  simp only at hw
  have hreached := hs.reached
  rw [hw] at hreached
  exact ⟨by rw [hw], hreached⟩

theorem first_push {quoted escaped literal : Bool} (hs : Stands input i ⟨w, quoted, escaped⟩)
    (hc : input[i]? = some c) {p : Nat} (hp : (w.push i c literal).start = some p) :
    (w.push i c literal).letters ≠ [] ∧ input[p]? = (w.push i c literal).letters.head? ∨
      OpensWord input p := by
  rcases Word.start_cases hp with ⟨hstart, rfl⟩ | hstart
  · obtain ⟨rfl, -⟩ := hs.fresh hstart
    exact .inl ⟨by simp [Word.push], by simpa [Word.push] using hc⟩
  · rcases hs.first p hstart with ⟨hne, hfirst⟩ | hopens
    · obtain ⟨a, ls, hletters⟩ := List.exists_cons_of_ne_nil hne
      simp only at hletters
      exact .inl ⟨by simp [Word.push], by simpa [Word.push, hletters] using hfirst⟩
    · exact .inr hopens

end Stands

section Step

variable {input : List Char} {i p : Nat} {c : Char} {s next : Scan} {out : List Token}

theorem Reads.fresh (h : Reads i c s out next) (hs : s.Stands input i)
    (hstart : next.word.start = none) : next.word = {} ∧ next.quoted = false := by
  cases h with
  | escaped | opening | quoted | plain => simp [Word.push, Word.beginAt] at hstart
  | backslash => exact hs.fresh hstart
  | closing => exact absurd (hs.fresh hstart).2 (by simp)
  | qualifier | white => exact ⟨rfl, rfl⟩

theorem Reads.first (h : Reads i c s out next) (hs : s.Stands input i) (hc : input[i]? = some c)
    (hp : next.word.start = some p) :
    next.word.letters ≠ [] ∧ input[p]? = next.word.letters.head? ∨ OpensWord input p := by
  cases h with
  | escaped | quoted | plain => exact hs.first_push hc hp
  | backslash | closing => exact hs.first p hp
  | opening w hquote =>
    rcases Word.start_cases hp with ⟨hstart, rfl⟩ | hstart
    · exact .inr ⟨(hs.beginsAt_of_none hstart).2, by rw [hc, hquote]⟩
    · exact hs.first p hstart
  | qualifier | white => cases hp

theorem Reads.bare (h : Reads i c s out next) (hs : s.Stands input i)
    (hdrop : input.drop i = c :: input.drop (i + 1)) (hp : next.word.start = some p)
    (hw : next.word.literal = false) :
    BeginsAt input p ∧ ∃ cs, Bare cs next.word.letters ∧
      input.drop p = cs ++ (next.opened ++ input.drop (i + 1)) := by
  cases h with
  | escaped | quoted => simp [Word.push] at hw
  | backslash w quoted hback =>
    obtain ⟨hbegin, cs, hcs, htext⟩ := hs.bare p hp hw
    exact ⟨hbegin, cs, hcs, by rw [htext, hdrop, hback]; simp [opened]⟩
  | closing w hquote =>
    -- the quote that is read and the one that was open have nothing between them
    obtain ⟨hbegin, cs, hcs, htext⟩ := hs.bare p hp hw
    exact ⟨hbegin, _, hcs.concat_quotes, by rw [htext, hdrop, hquote]; simp [opened]⟩
  | opening w hquote =>
    rcases Word.start_cases hp with ⟨hstart, rfl⟩ | hstart
    · obtain ⟨hletters, hbegin⟩ := hs.beginsAt_of_none hstart
      exact ⟨hbegin, [], by rw [Word.beginAt, hletters]; exact .nil, by simp [opened, hdrop, hquote]⟩
    · obtain ⟨hbegin, cs, hcs, htext⟩ := hs.bare p hstart hw
      exact ⟨hbegin, cs, hcs, by rw [htext, hdrop, hquote]; simp [opened]⟩
  | qualifier | white => cases hp
  | plain w hquote =>
    rcases Word.start_cases hp with ⟨hstart, rfl⟩ | hstart
    · obtain ⟨hletters, hbegin⟩ := hs.beginsAt_of_none hstart
      exact ⟨hbegin, [c], by rw [Word.push, hletters]; exact .letter hquote .nil,
        by simp [opened, hdrop]⟩
    · have hplain : w.literal = false := by simpa [Word.push] using hw
      obtain ⟨hbegin, cs, hcs, htext⟩ := hs.bare p hstart hplain
      exact ⟨hbegin, cs ++ [c], hcs.concat hquote, by rw [htext, hdrop]; simp [opened]⟩

/-- A step keeps what stands where the word started, and what was read since then. -/
theorem Stands.step (hs : s.Stands input i) (hdrop : input.drop i = c :: input.drop (i + 1)) :
    (s.step i c).2.Stands input (i + 1) := by
  have hc : input[i]? = some c := by rw [← List.head?_drop, hdrop, List.head?_cons]
  have hlength : (input.take i).length = i := by
    have hlt := (List.getElem?_eq_some_iff.mp hc).1
    rw [List.length_take, Nat.min_eq_left (Nat.le_of_lt hlt)]
  have hread := s.reads_step i c
  refine ⟨?_, hread.fresh hs, fun p => hread.first hs hc, fun p => hread.bare hs hdrop⟩
  rw [List.take_add_one, hc, Option.toList_some, run_append, hs.reached, hlength, Nat.zero_add]
  rfl

end Step
end Scan

section Located

variable {input : List Char} {i p : Nat} {s next : Scan} {cs ls : List Char} {a c : Char}
  {t : Token} {ts : List Token}

theorem BeginsAt.outside (h : BeginsAt input p) : OutsideAt input p := by
  rw [OutsideAt, h]
  exact ⟨rfl, rfl⟩

theorem BeginsAt.outside_minus (h : BeginsAt input p) (hp : input[p]? = some '-') :
    OutsideAt input (p + 1) := by
  have hwhite : Text.isWhite '-' = false := by decide
  rw [OutsideAt, List.take_add_one, hp, Option.toList_some, Scan.run_append, h]
  simp [Scan.run, Scan.step, hwhite]

/-- The first letter of a word without literal characters stands in front, or empty quotes do. -/
theorem front_of_bare (houtside : OutsideAt input p) (hcs : Bare cs (a :: ls))
    (htext : cs <+: input.drop p) : input[p]? = some a ∨ EmptyQuotesAt input p := by
  rcases hcs.front with ⟨rest, rfl, -⟩ | hquotes
  · obtain ⟨behind, hdrop⟩ := htext
    exact .inl (by rw [← List.head?_drop, ← hdrop]; rfl)
  · exact .inr ⟨houtside, hquotes.trans htext⟩

def Token.Located (input : List Char) (t : Token) : Prop :=
  t.PointsInto input ∨ t.AtEmptyQuotes input

namespace Scan

theorem Stands.exists_start (hs : s.Stands input i) (hw : s.word.letters ≠ []) :
    ∃ p, s.word.start = some p := by
  cases hstart : s.word.start with
  | none => exact absurd (by rw [(hs.fresh hstart).1]) hw
  | some p => exact ⟨p, rfl⟩

theorem Stands.exists_bare (hs : s.Stands input i) (hletters : s.word.letters = a :: ls)
    (hw : s.word.literal = false) :
    ∃ p cs, s.word.start = some p ∧ BeginsAt input p ∧ Bare cs (a :: ls) ∧ cs <+: input.drop p := by
  obtain ⟨p, hstart⟩ := hs.exists_start (by simp [hletters])
  obtain ⟨hbegin, cs, hcs, htext⟩ := hs.bare p hstart hw
  exact ⟨p, cs, hstart, hbegin, hletters ▸ hcs, ⟨_, htext.symm⟩⟩

theorem Stands.located (hs : s.Stands input i) (h : s.word.Gives ts) : ∀ t ∈ ts, t.Located input := by
  cases h with
  | nothing => simp
  | negated name hw hletters =>
    obtain ⟨p, cs, hstart, hbegin, hcs, htext⟩ := hs.exists_bare hletters hw
    rw [hstart, Option.getD_some]
    rcases hcs.front with ⟨rest, rfl, hrest⟩ | hquotes
    · obtain ⟨behind, hdrop⟩ := htext
      have hminus : input[p]? = some '-' := by rw [← List.head?_drop, ← hdrop]; rfl
      have hnext : rest <+: input.drop (p + 1) := by
        refine ⟨behind, ?_⟩
        rw [List.drop_add_one_eq_tail_drop, ← hdrop]
        rfl
      have htag := front_of_bare (hbegin.outside_minus hminus) hrest hnext
      rw [List.forall_mem_cons, List.forall_mem_singleton]
      exact ⟨.inl hminus, htag.imp id fun hempty => ⟨by simp, p + 1, hempty, .inl rfl⟩⟩
    · -- quotes in front of the minus: the tag is told to be at the second of them
      have hempty : EmptyQuotesAt input p := ⟨hbegin.outside, hquotes.trans htext⟩
      rw [List.forall_mem_cons, List.forall_mem_singleton]
      exact ⟨.inr ⟨by simp, p, hempty, .inl rfl⟩, .inr ⟨by simp, p, hempty, .inr rfl⟩⟩
  | tag name hw hletters =>
    obtain ⟨p, cs, hstart, hbegin, hcs, htext⟩ := hs.exists_bare hletters hw
    have htag := front_of_bare hbegin.outside hcs htext
    rw [hstart, Option.getD_some, List.forall_mem_singleton]
    exact htag.imp id fun hempty => ⟨by simp, p, hempty, .inl rfl⟩
  | text hletters =>
    obtain ⟨p, hstart⟩ := hs.exists_start hletters
    rw [hstart, Option.getD_some, List.forall_mem_singleton]
    refine .inl ((hs.first p hstart).imp (fun hfirst => ?_) id)
    simpa using hfirst

theorem Reads.located (h : Reads i c s ts next) (hs : s.Stands input i) :
    ∀ t ∈ ts, t.Located input := by
  cases h with
  | qualifier w q hw hname =>
    have hletters := Qualifier.letters_of_ofName? hname
    obtain ⟨a, ls, hcons⟩ := List.exists_cons_of_ne_nil (Qualifier.letters_ne_nil hname)
    obtain ⟨p, cs, hstart, hbegin, hcs, htext⟩ := hs.exists_bare hcons hw
    have hfirst := front_of_bare hbegin.outside hcs htext
    simp only at hstart
    rw [hstart, Option.getD_some, List.forall_mem_singleton]
    refine hfirst.imp (fun hat => ?_) fun hempty => ⟨by simp, p, hempty, .inl rfl⟩
    have hhead : q.name.toList.head? = some a := by rw [← hletters, hcons, List.head?_cons]
    exact hat.trans hhead.symm
  | white w => exact hs.located w.gives_tokens
  | _ => simp

/-- All tokens of a run from a state in which the word stands where it starts are located. -/
theorem run_located (hs : s.Stands input i) (hcs : input.drop i = cs) :
    (∀ t ∈ (s.run i cs).1, t.Located input) ∧ (s.run i cs).2.Stands input (i + cs.length) := by
  induction cs generalizing s i with
  | nil => exact ⟨by simp [run], hs⟩
  | cons c cs ih =>
    have hnext : input.drop (i + 1) = cs := by rw [List.drop_add_one_eq_tail_drop, hcs, List.tail_cons]
    obtain ⟨hrest, hend⟩ := ih (hs.step (by rw [hcs, hnext])) hnext
    refine ⟨fun t ht => ?_, ?_⟩
    · rcases List.mem_append.mp ht with ht | ht
      · exact (s.reads_step i c).located hs t ht
      · exact hrest t ht
    · rwa [List.length_cons, Nat.add_left_comm, Nat.add_comm]

end Scan

theorem located_of_mem {input : String} (h : t ∈ tokenize input) : t.Located input.toList := by
  obtain ⟨hrun, hend⟩ := Scan.run_located (Scan.Stands.begin input.toList) (List.drop_zero)
  rw [tokenize_eq, List.mem_append, List.mem_singleton] at h
  rcases h with h | rfl
  · rcases List.mem_append.mp h with h | h
    · exact hrun t h
    · exact hend.located (Word.gives_tokens _) t h
  · exact .inl trivial

theorem Token.AtEmptyQuotes.getElem? (h : t.AtEmptyQuotes input) : input[t.position]? = some '"' := by
  obtain ⟨-, p, ⟨-, behind, hdrop⟩, hp⟩ := h
  rcases hp with hp | hp
  · rw [hp, ← List.head?_drop, ← hdrop]
    rfl
  · rw [hp, ← List.head?_drop, List.drop_add_one_eq_tail_drop, ← hdrop]
    rfl

theorem EmptyQuotesAt.lt_length (h : EmptyQuotesAt input p) : p < input.length := by
  have hlength := h.2.length_le
  simp only [List.length_cons, List.length_nil, List.length_drop] at hlength
  omega

theorem getElem?_end {input : String} {p : Nat} (h : (⟨.endOfQuery, p⟩ : Token) ∈ tokenize input) :
    input.toList[p]? = none := by
  rw [tokenize_eq, List.mem_append, List.mem_singleton] at h
  rcases h with h | h
  · exact absurd rfl ((clauses_wordTokens input).not_endOfQuery _ h)
  · cases h
    rw [List.getElem?_eq_none_iff, String.length_toList]
    omega

theorem not_atEmptyQuotes_of_pointsInto {input : String} (ht : t ∈ tokenize input)
    (h : t.PointsInto input.toList) : ¬ t.AtEmptyQuotes input.toList := by
  intro hempty
  have hquote := hempty.getElem?
  obtain ⟨kind, p⟩ := t
  cases kind with
  | text v => exact hempty.1 v rfl
  | qualifier q =>
    cases q
    exact absurd (h.symm.trans hquote) (by decide)
  | tag name => exact absurd (h.symm.trans hquote) (by decide)
  | not => exact absurd (h.symm.trans hquote) (by decide)
  | endOfQuery => exact absurd ((getElem?_end ht).symm.trans hquote) (by simp)

end Located

/-- A token of a search string points at its own first character, a text perhaps at the quote that opens
its word, exactly if it is not at empty quotes. So all tokens do in a string in which no quotes close
where they open. -/
theorem tokens_point_iff (input : String) :
    (∀ t ∈ tokenize input, t.PointsInto input.toList ↔ ¬ t.AtEmptyQuotes input.toList) ∧
    ((∀ p, ¬ EmptyQuotesAt input.toList p) → ∀ t ∈ tokenize input, t.PointsInto input.toList) := by
  have hpoint : ∀ t ∈ tokenize input,
      t.PointsInto input.toList ↔ ¬ t.AtEmptyQuotes input.toList := by
    intro t ht
    exact ⟨not_atEmptyQuotes_of_pointsInto ht, (located_of_mem ht).resolve_right⟩
  refine ⟨hpoint, fun hnone t ht => (hpoint t ht).mpr ?_⟩
  rintro ⟨-, p, hempty, -⟩
  exact hnone p hempty

/-- A text at its quote and one behind its escape, and a tag that is one behind its negation. With empty
quotes between the two the tag is told to be where these are. -/
theorem tokens_point_iff_of_negated :
    (∀ p, ¬ EmptyQuotesAt "url:\"a b\" -#é \\#c".toList p) ∧
    (⟨.tag "é", 11⟩ : Token) ∈ tokenize "url:\"a b\" -#é \\#c" ∧
    (⟨.tag "é", 11⟩ : Token).PointsInto "url:\"a b\" -#é \\#c".toList ∧
    (⟨.tag "é", 1⟩ : Token) ∈ tokenize "-\"\"#é" ∧
    (⟨.tag "é", 1⟩ : Token).AtEmptyQuotes "-\"\"#é".toList ∧
    ¬ (⟨.tag "é", 1⟩ : Token).PointsInto "-\"\"#é".toList := by
  have hshort : ∀ p < 17, ¬ EmptyQuotesAt "url:\"a b\" -#é \\#c".toList p := by decide
  have hnone : ∀ p, ¬ EmptyQuotesAt "url:\"a b\" -#é \\#c".toList p := fun p hempty =>
    hshort p hempty.lt_length hempty
  have hthere : (⟨.tag "é", 11⟩ : Token) ∈ tokenize "url:\"a b\" -#é \\#c" := by decide
  have hmoved : (⟨.tag "é", 1⟩ : Token) ∈ tokenize "-\"\"#é" := by decide
  have hempty : (⟨.tag "é", 1⟩ : Token).AtEmptyQuotes "-\"\"#é".toList :=
    ⟨by simp, 1, by decide, .inl rfl⟩
  exact ⟨hnone, hthere, (tokens_point_iff _).2 hnone _ hthere, hmoved, hempty,
    fun hpoint => ((tokens_point_iff _).1 _ hmoved).mp hpoint hempty⟩

/-- Empty quotes between a minus and a tag, or in front of a qualifier, are in the way of its position. -/
theorem empty_quotes_at_position :
    tokenize "-\"\"#a" = [⟨.not, 0⟩, ⟨.tag "a", 1⟩, ⟨.endOfQuery, 6⟩] ∧
    "-\"\"#a".toList[1]? = some '"' ∧
    ¬ (∀ t ∈ tokenize "-\"\"#a", t.PointsInto "-\"\"#a".toList) ∧
    tokenize "\"\"url:" = [⟨.qualifier .url, 0⟩, ⟨.endOfQuery, 7⟩] ∧
    "\"\"url:".toList[0]? = some '"' ∧
    ¬ (∀ t ∈ tokenize "\"\"url:", t.PointsInto "\"\"url:".toList) := by
  decide

end Query
end LinkShelf
