import LinkShelf.Proofs.Yaml.Escape

/-! Texts in quotes: what is written between them, with its blanks and breaks, is read as the text. -/
namespace LinkShelf
namespace Yaml

namespace Gap

variable {g : Gap}

theorem text_addBlank (hg : g.broken = false) : (g.addBlank ' ').text = g.text ++ [' '] := by
  simp [addBlank, text, hg]

theorem broken_addBlank (hg : g.broken = false) : (g.addBlank ' ').broken = false := by
  simp [addBlank, hg]

theorem addBlank_of_broken (hg : g.broken = true) (c : Char) : g.addBlank c = g := by
  simp [addBlank, hg]

/-- The breaks that were read stand for themselves, and no longer for a space. -/
structure IsFull (g : Gap) : Prop where
  broken : g.broken = true
  kept : g.first ≠ ['\n'] ∨ g.more ≠ []

theorem IsFull.addBreak (hg : g.IsFull) (b : List Char) : (g.addBreak b).IsFull := by
  have hmore : g.addBreak b = { g with more := g.more ++ b } := by simp [Gap.addBreak, hg.broken]
  rw [hmore]
  exact ⟨hg.broken, hg.kept.imp_right fun h => by simp [h]⟩

theorem IsFull.text_addBreak (hg : g.IsFull) (b : List Char) :
    (g.addBreak b).text = g.text ++ b := by
  have hmore : g.addBreak b = { g with more := g.more ++ b } := by simp [Gap.addBreak, hg.broken]
  rw [hmore]
  by_cases hfirst : g.first = ['\n']
  · have hkept : g.more ≠ [] := hg.kept.resolve_left fun h => h hfirst
    simp [text, hg.broken, hfirst, hkept]
  · simp [text, hg.broken, hfirst]

theorem isFull_of_ne {x : Char} (hx : x ≠ '\n') : (({} : Gap).addBreak [x]).IsFull :=
  ⟨rfl, .inl (by simpa [addBreak] using hx)⟩

theorem isFull_twice : ((({} : Gap).addBreak ['\n']).addBreak ['\n']).IsFull :=
  ⟨rfl, .inr (by decide)⟩

end Gap

/-- A reader finds this text, and this is left behind it. -/
def Finds (o : Option (List Char × Cursor)) (text rest : List Char) : Prop :=
  ∃ c, o = some (text, c) ∧ c.rest = rest

theorem Finds.map {o : Option (List Char × Cursor)} {text rest : List Char}
    (h : Finds o text rest) (front : List Char) :
    Finds (o.map fun p => (front ++ p.1, p.2)) (front ++ text) rest := by
  obtain ⟨c, rfl, hc⟩ := h
  exact ⟨c, rfl, hc⟩

/-- The rest of a scalar in quotes when a part of a gap has been read. -/
def readBehind (single : Bool) (fuel : Nat) (g : Gap) (c : Cursor) : Option (List Char × Cursor) := do
  let (gap, c) ← c.readGap 0 (c.rest.length + 1) g
  let (text, c) ← readQuoted single fuel c
  some (gap.text ++ text, c)

section Gaps

variable {single : Bool} {fuel : Nat} {g : Gap} {c : Cursor} {x : Char} {r : List Char}

theorem readBehind_space (hc : c.rest = ' ' :: r) :
    readBehind single fuel g c = readBehind single fuel (g.addBlank ' ') (c.skip 1) := by
  have hlength : c.rest.length = (c.skip 1).rest.length + 1 := by simp [hc]
  rw [readBehind, hlength, Cursor.readGap_space hc]
  rfl

theorem readBehind_break (hc : c.rest = x :: r) (hx : IsPlainBreak x) :
    readBehind single fuel g c = readBehind single fuel (g.addBreak [x]) c.nextLine := by
  have hlength : c.rest.length = c.nextLine.rest.length + 1 := by simp [hc]
  rw [readBehind, hlength, Cursor.readGap_break hc hx]
  rfl

theorem readBehind_dark (hc : BeginsDark c.rest) :
    readBehind single fuel g c = (readQuoted single fuel c).map fun p => (g.text ++ p.1, p.2) := by
  rw [readBehind, Cursor.readGap_dark hc]
  simp only [Option.bind_eq_bind, Option.bind_some]
  cases readQuoted single fuel c <;> rfl

theorem readQuoted_spacing (hcolumn : c.column ≠ 0) (hc : c.rest = x :: r)
    (hx : isSpacing x = true) :
    readQuoted single (fuel + 1) c = readBehind single fuel {} c := by
  rw [readQuoted, Cursor.atDocumentMark_of_column hcolumn, hc]
  simp only [Bool.false_eq_true, if_false, hx, if_true]
  rw [readBehind, hc]

end Gaps

/-- In quotes these characters are read as a text, with some others left. -/
def Reads (single : Bool) (written text rest : List Char) : Prop :=
  ∀ (fuel : Nat) (c : Cursor), text.length < fuel → c.column ≠ 0 → c.rest = written →
    Finds (readQuoted single fuel c) text rest

/-- They are read as a text behind a part of a gap. -/
def ReadsBehind (single : Bool) (g : Gap) (written text rest : List Char) : Prop :=
  ∀ (fuel : Nat) (c : Cursor), text.length < fuel → (g.broken = false → c.column ≠ 0) →
    c.rest = written → Finds (readBehind single fuel g c) (g.text ++ text) rest

section Rules

variable {single : Bool} {g : Gap} {written text rest : List Char} {x : Char}

theorem Reads.behind (h : Reads single written text rest) (hdark : BeginsDark written)
    (hg : g.broken = false) : ReadsBehind single g written text rest := by
  intro fuel c hfuel hcolumn hc
  rw [readBehind_dark (hc ▸ hdark)]
  exact (h fuel c hfuel (hcolumn hg) hc).map g.text

theorem Reads.behind_margin (h : Reads single written text rest) (hdark : BeginsDark written)
    (hg : g.broken = true) : ReadsBehind single g (margin ++ written) text rest := by
  intro fuel c hfuel _ hc
  have hnext : (c.skip 1).rest = ' ' :: written := by rw [Cursor.skip_rest, hc]; rfl
  have hword : ((c.skip 1).skip 1).rest = written := by rw [Cursor.skip_rest, hnext]; rfl
  rw [readBehind_space hc, Gap.addBlank_of_broken hg, readBehind_space hnext,
    Gap.addBlank_of_broken hg, readBehind_dark (hword ▸ hdark)]
  exact (h fuel _ hfuel (by simp) hword).map g.text

theorem ReadsBehind.space (hg : g.broken = false)
    (h : ReadsBehind single (g.addBlank ' ') written text rest) :
    ReadsBehind single g (' ' :: written) (' ' :: text) rest := by
  intro fuel c hfuel hcolumn hc
  have hfinds := h fuel (c.skip 1) (Nat.lt_of_succ_lt hfuel) (by simp) (by simp [hc])
  rw [Gap.text_addBlank hg, List.append_assoc] at hfinds
  rw [readBehind_space hc]
  exact hfinds

theorem ReadsBehind.lineBreak (hx : IsPlainBreak x) (hg : g.IsFull)
    (h : ReadsBehind single (g.addBreak [x]) written text rest) :
    ReadsBehind single g (x :: written) (x :: text) rest := by
  intro fuel c hfuel hcolumn hc
  have hbroken := (hg.addBreak [x]).broken
  have hfinds := h fuel c.nextLine (Nat.lt_of_succ_lt hfuel) (by simp [hbroken]) (by simp [hc])
  rw [hg.text_addBreak, List.append_assoc] at hfinds
  rw [readBehind_break hc hx]
  exact hfinds

theorem Reads.space (h : ReadsBehind single (({} : Gap).addBlank ' ') written text rest) :
    Reads single (' ' :: written) (' ' :: text) rest := by
  intro fuel c hfuel hcolumn hc
  obtain ⟨fuel, rfl⟩ := Nat.exists_eq_add_one.mpr (Nat.zero_lt_of_lt hfuel)
  rw [readQuoted_spacing hcolumn hc rfl, readBehind_space hc]
  exact h fuel (c.skip 1) (Nat.lt_of_succ_lt_succ hfuel) (by simp) (by simp [hc])

theorem Reads.lineBreak (hx : IsPlainBreak x) (hne : x ≠ '\n')
    (h : ReadsBehind single (({} : Gap).addBreak [x]) written text rest) :
    Reads single (x :: written) (x :: text) rest := by
  intro fuel c hfuel hcolumn hc
  obtain ⟨fuel, rfl⟩ := Nat.exists_eq_add_one.mpr (Nat.zero_lt_of_lt hfuel)
  have htext : (({} : Gap).addBreak [x]).text = [x] := by simp [Gap.text, Gap.addBreak, hne]
  have hfinds := h fuel c.nextLine (Nat.lt_of_succ_lt_succ hfuel) (by simp [Gap.addBreak])
    (by simp [hc])
  rw [htext] at hfinds
  rw [readQuoted_spacing hcolumn hc (isSpacing_of_isBreak hx.isBreak), readBehind_break hc hx]
  exact hfinds

/-- A line feed at the end of a word is written twice. -/
theorem Reads.lineFeed
    (h : ReadsBehind single ((({} : Gap).addBreak ['\n']).addBreak ['\n']) written text rest) :
    Reads single ('\n' :: '\n' :: written) ('\n' :: text) rest := by
  intro fuel c hfuel hcolumn hc
  obtain ⟨fuel, rfl⟩ := Nat.exists_eq_add_one.mpr (Nat.zero_lt_of_lt hfuel)
  have hnext : c.nextLine.rest = '\n' :: written := by simp [hc]
  rw [readQuoted_spacing hcolumn hc rfl, readBehind_break hc (.inl rfl),
    readBehind_break hnext (.inl rfl)]
  exact h fuel _ (Nat.lt_of_succ_lt_succ hfuel) (by simp [Gap.isFull_twice.broken])
    (by rw [Cursor.nextLine_rest, hnext]; rfl)

theorem Reads.close (hrest : rest.head? ≠ some '\'') :
    Reads single ((if single then '\'' else '"') :: rest) [] rest := by
  intro fuel c hfuel hcolumn hc
  obtain ⟨fuel, rfl⟩ := Nat.exists_eq_add_one.mpr (Nat.zero_lt_of_lt hfuel)
  have hdark : isSpacing (if single then '\'' else '"') = false := by cases single <;> rfl
  have hread : readQuoted single (fuel + 1) c = some ([], c.skip 1) := by
    rw [readQuoted, Cursor.atDocumentMark_of_column hcolumn, hc]
    simp [hdark, hrest]
  exact ⟨c.skip 1, hread, by simp [hc]⟩

theorem Reads.cons (h : Reads single written text rest) (front : List Char)
    (hfront : ∀ (fuel : Nat) (c : Cursor), c.column ≠ 0 → c.rest = front ++ written →
      readQuoted single (fuel + 1) c =
        (readQuoted single fuel (c.skip front.length)).map fun p => ([x] ++ p.1, p.2)) :
    Reads single (front ++ written) (x :: text) rest := by
  intro fuel c hfuel hcolumn hc
  obtain ⟨fuel, rfl⟩ := Nat.exists_eq_add_one.mpr (Nat.zero_lt_of_lt hfuel)
  have hnext : (c.skip front.length).column ≠ 0 := by
    rw [Cursor.skip_column]
    omega
  rw [hfront fuel c hcolumn hc]
  exact (h fuel _ (Nat.lt_of_succ_lt_succ hfuel) hnext (by simp [hc])).map [x]

theorem Reads.twice (h : Reads true written text rest) :
    Reads true ('\'' :: '\'' :: written) ('\'' :: text) rest := by
  refine h.cons ['\'', '\''] fun fuel c hcolumn hc => ?_
  have hdark : isSpacing '\'' = false := rfl
  rw [readQuoted, Cursor.atDocumentMark_of_column hcolumn, hc]
  simp only [List.cons_append, List.nil_append, Bool.false_eq_true, if_false, hdark,
    List.head?_cons, beq_self_eq_true, Bool.and_self, if_true]
  cases readQuoted true fuel (c.skip 2) <;> rfl

theorem Reads.self (h : Reads single written text rest) (hdark : isSpacing x = false)
    (hquote : x ≠ if single then '\'' else '"') (hslash : single = true ∨ x ≠ '\\') :
    Reads single (x :: written) (x :: text) rest := by
  have htwice : (single && x == '\'' && written.head? == some '\'') = false := by
    cases single with
    | false => rfl
    | true => simp [show x ≠ '\'' from hquote]
  have hescape : (!single && x == '\\') = false := by
    rcases hslash with rfl | hslash
    · rfl
    · simp [hslash]
  refine h.cons [x] fun fuel c hcolumn hc => ?_
  rw [readQuoted, Cursor.atDocumentMark_of_column hcolumn, hc]
  simp only [List.singleton_append, Bool.false_eq_true, if_false, hdark, htwice,
    beq_eq_false_iff_ne.mpr hquote, hescape]
  cases readQuoted single fuel (c.skip 1) <;> rfl

theorem Reads.escape {e : List Char} (h : Reads false written text rest) (he : IsEscape e x) :
    Reads false ('\\' :: (e ++ written)) (x :: text) rest := by
  obtain ⟨letter, tail, hletter, hbreak⟩ := he.dark
  refine h.cons ('\\' :: e) fun fuel c hcolumn hc => ?_
  have hnext : (c.skip 1).atBreak = false := by
    have hrest : (c.skip 1).rest = letter :: (tail ++ written) := by
      rw [Cursor.skip_rest, hc, hletter]
      rfl
    rw [Cursor.atBreak_cons hrest, hbreak]
  have hdark : isSpacing '\\' = false := rfl
  have hquote : ('\\' == '"') = false := rfl
  rw [readQuoted, Cursor.atDocumentMark_of_column hcolumn, hc]
  simp only [List.cons_append, Bool.false_eq_true, if_false, hdark, Bool.false_and, hquote,
    Bool.not_false, Bool.true_and, beq_self_eq_true, if_true, hnext, he.reads, Option.bind_eq_bind,
    Option.bind_some]
  cases readQuoted false fuel (c.skip (e.length + 1)) <;> rfl

end Rules

section Double

variable {rest : List Char}

theorem beginsDark_double {x : Char} (hx : x ≠ ' ') (cs : List Char) :
    BeginsDark (doubleChar x ++ cs) := by
  intro d hd
  rcases doubleChar_cases x with ⟨hself, hspacing, -⟩ | ⟨e, hescape, -⟩
  · rw [hself] at hd
    cases hd
    exact hspacing.resolve_left hx
  · rw [hescape] at hd
    cases hd
    rfl

theorem doubleChar_space : doubleChar ' ' = [' '] := rfl

/-- A text is read as it is written between double quotes, from its start and from behind blanks. -/
theorem reads_double (hrest : rest.head? ≠ some '\'') (cs : List Char) :
    Reads false (cs.flatMap doubleChar ++ '"' :: rest) cs rest ∧ ∀ g : Gap, g.broken = false →
      ReadsBehind false g (cs.flatMap doubleChar ++ '"' :: rest) cs rest := by
  induction cs with
  | nil =>
    have hclose : Reads false ('"' :: rest) [] rest := Reads.close hrest
    have hdark : BeginsDark ('"' :: rest) := by
      rintro d ⟨⟩
      rfl
    exact ⟨hclose, fun g hg => hclose.behind hdark hg⟩
  | cons x cs ih =>
    obtain ⟨hword, hgap⟩ := ih
    rw [List.flatMap_cons, List.append_assoc]
    by_cases hx : x = ' '
    · subst hx
      rw [doubleChar_space]
      exact ⟨.space (hgap _ rfl), fun g hg => .space hg (hgap _ (Gap.broken_addBlank hg))⟩
    · have hdark := beginsDark_double hx (cs.flatMap doubleChar ++ '"' :: rest)
      have hfirst : Reads false (doubleChar x ++ (cs.flatMap doubleChar ++ '"' :: rest))
          (x :: cs) rest := by
        rcases doubleChar_cases x with ⟨hself, hspacing, hquote, hslash, -⟩ | ⟨e, hescape, he⟩
        · rw [hself]
          exact hword.self (hspacing.resolve_left hx) hquote (.inr hslash)
        · rw [hescape]
          exact hword.escape he
      exact ⟨hfirst, fun g hg => hfirst.behind hdark hg⟩

theorem length_le_double (cs : List Char) : cs.length ≤ (cs.flatMap doubleChar).length := by
  induction cs with
  | nil => exact Nat.zero_le _
  | cons x cs ih =>
    have hone : 1 ≤ (doubleChar x).length := by
      rcases doubleChar_cases x with ⟨hself, -⟩ | ⟨e, hescape, -⟩
      · simp [hself]
      · simp [hescape]
    rw [List.flatMap_cons, List.length_append, List.length_cons]
    omega

theorem readQuoted_double {c : Cursor} {cs : List Char} (hrest : rest.head? ≠ some '\'')
    (hc : c.rest = '"' :: (cs.flatMap doubleChar ++ '"' :: rest)) :
    Finds (readQuoted false (c.rest.length + 1) (c.skip 1)) cs rest := by
  have hlength := length_le_double cs
  refine (reads_double hrest cs).1 _ _ ?_ (by simp) (by simp [hc])
  simp only [hc, List.length_cons, List.length_append]
  omega

end Double

section Single

variable {c : Char} {cs rest : List Char}

theorem hasPair_cons (p q : Char → Bool) (c : Char) (cs : List Char) :
    hasPair p q (c :: cs) = (p c && cs.head?.any q || hasPair p q cs) := by
  cases cs <;> simp [hasPair]

/-- What single quotes can hold: no blank stands in front of a break, and none behind one. -/
theorem singleAllowed_cons : singleAllowed (c :: cs) = true ↔ isPrintable c = true ∧
    (c = ' ' → cs.head?.any isBreak = false) ∧ (isBreak c = true → cs.head? ≠ some ' ') ∧
      singleAllowed cs = true := by
  have hspace : cs.head?.any (· == ' ') = false ↔ cs.head? ≠ some ' ' := by
    cases cs <;> simp
  simp only [singleAllowed, needsDouble, hasPair_cons, List.any_cons, Bool.and_eq_true,
    Bool.not_eq_true', Bool.or_eq_false_iff, Bool.and_eq_false_imp, beq_iff_eq, hspace,
    Bool.not_eq_false']
  constructor
  · rintro ⟨⟨⟨hc, hall⟩, hblank, hpair⟩, hbreak, hpair'⟩
    exact ⟨hc, hblank, hbreak, ⟨hall, hpair⟩, hpair'⟩
  · rintro ⟨hc, hblank, hbreak, ⟨hall, hpair⟩, hpair'⟩
    exact ⟨⟨⟨hc, hall⟩, hblank, hpair⟩, hbreak, hpair'⟩

theorem beginsDark_single (hc : isSpacing c = false) (cs : List Char) :
    BeginsDark ((if c == '\'' then ['\'', '\''] else [c]) ++ cs) := by
  intro d hd
  split at hd
  · cases hd
    rfl
  · cases hd
    exact hc

/-- A text is read as it is written between single quotes: from its start, from behind blanks, and
from behind breaks, where a line begins with its margin. -/
theorem reads_single (hrest : rest.head? ≠ some '\'') (hcs : singleAllowed cs = true) :
    Reads true (singleFrom false cs ++ '\'' :: rest) cs rest ∧
      (∀ g : Gap, g.broken = false → cs.head?.any isBreak = false →
        ReadsBehind true g (singleFrom false cs ++ '\'' :: rest) cs rest) ∧
      ∀ g : Gap, g.IsFull → cs.head? ≠ some ' ' →
        ReadsBehind true g (singleFrom true cs ++ '\'' :: rest) cs rest := by
  induction cs with
  | nil =>
    have hclose : Reads true ('\'' :: rest) [] rest := Reads.close hrest
    have hdark : BeginsDark ('\'' :: rest) := by
      rintro d ⟨⟩
      rfl
    exact ⟨hclose, fun g hg _ => hclose.behind hdark hg,
      fun g hg _ => hclose.behind_margin hdark hg.broken⟩
  | cons c cs ih =>
    obtain ⟨hprintable, hblank, hbreak, hcs⟩ := singleAllowed_cons.mp hcs
    obtain ⟨hword, hgap, hline⟩ := ih hcs
    by_cases hspacing : isSpacing c = true
    · rcases space_or_plainBreak hprintable hspacing with rfl | hplain
      · have hnone := hblank rfl
        exact ⟨.space (hgap _ rfl hnone),
          fun g hg _ => .space hg (hgap _ (Gap.broken_addBlank hg) hnone),
          fun g _ hne => absurd rfl hne⟩
      · have hnext := hbreak hplain.isBreak
        have hhead : (c :: cs).head?.any isBreak ≠ false := by simp [hplain.isBreak]
        refine ⟨?_, fun g _ hnone => absurd hnone hhead, fun g hg _ => ?_⟩
        · by_cases hfeed : c = '\n'
          · subst hfeed
            exact .lineFeed (hline _ Gap.isFull_twice hnext)
          · have hwritten : singleFrom false (c :: cs) = c :: singleFrom true cs := by
              simp [singleFrom, hplain.isBreak, hfeed]
            rw [hwritten]
            exact .lineBreak hplain hfeed (hline _ (Gap.isFull_of_ne hfeed) hnext)
        · have hwritten : singleFrom true (c :: cs) = c :: singleFrom true cs := by
            simp [singleFrom, hplain.isBreak]
          rw [hwritten]
          exact .lineBreak hplain hg (hline _ (hg.addBreak _) hnext)
    · have hdark : isSpacing c = false := by simpa using hspacing
      have hnone : isBreak c = false := isBreak_of_dark hdark
      have hfrom : ∀ broken, singleFrom broken (c :: cs) ++ '\'' :: rest =
          (if broken then margin else []) ++ ((if c == '\'' then ['\'', '\''] else [c]) ++
            (singleFrom false cs ++ '\'' :: rest)) := by
        intro broken
        simp [singleFrom, hnone]
      have hfirst : Reads true ((if c == '\'' then ['\'', '\''] else [c]) ++
          (singleFrom false cs ++ '\'' :: rest)) (c :: cs) rest := by
        by_cases hquote : c = '\''
        · subst hquote
          exact hword.twice
        · rw [if_neg (by simpa using hquote)]
          exact hword.self hdark hquote (.inl rfl)
      have hbegins := beginsDark_single hdark (singleFrom false cs ++ '\'' :: rest)
      rw [hfrom, hfrom]
      exact ⟨hfirst, fun g hg _ => hfirst.behind hbegins hg,
        fun g hg _ => hfirst.behind_margin hbegins hg.broken⟩

theorem length_le_single (broken : Bool) (cs : List Char) :
    cs.length ≤ (singleFrom broken cs).length := by
  induction cs generalizing broken with
  | nil => exact Nat.zero_le _
  | cons c cs ih =>
    have hfeed : 1 ≤ (if c == '\n' && !broken then ['\n', '\n'] else [c]).length := by
      split <;> simp
    have hquote : 1 ≤ (if c == '\'' then ['\'', '\''] else [c]).length := by
      split <;> simp
    rw [singleFrom]
    split
    · have hline := ih true
      rw [List.length_append, List.length_cons]
      omega
    · have hword := ih false
      rw [List.length_append, List.length_append, List.length_cons]
      omega

theorem readQuoted_single {c : Cursor} (hcs : singleAllowed cs = true)
    (hrest : rest.head? ≠ some '\'') (hc : c.rest = '\'' :: (singleFrom false cs ++ '\'' :: rest)) :
    Finds (readQuoted true (c.rest.length + 1) (c.skip 1)) cs rest := by
  have hlength := length_le_single false cs
  refine (reads_single hrest hcs).1 _ _ ?_ (by simp) (by simp [hc])
  simp only [hc, List.length_cons, List.length_append]
  omega

end Single

end Yaml
end LinkShelf
