import LinkShelf.Proofs.Yaml.Quoted
import LinkShelf.Proofs.Yaml.Forms
import LinkShelf.Yaml.Layout

/-! The entries of a mapping that is not indented: a name, a colon and a value on a line are read as a
key and its value, and the next line follows. -/
namespace LinkShelf
namespace Yaml

/-- Something is written here that is neither a comment nor the mark of a byte order. -/
def BeginsToken (cs : List Char) : Prop :=
  ∀ c ∈ cs.head?, isSpacing c = false ∧ c ≠ '#' ∧ c ≠ '\ufeff'

theorem BeginsToken.beginsDark {cs : List Char} (h : BeginsToken cs) : BeginsDark cs :=
  fun c hc => (h c hc).1

/-- A name of letters and marks that can stand in front of a colon. -/
structure IsName (name : List Char) : Prop where
  word : IsWord name
  letter : ∀ c ∈ name.head?, c.isAlpha = true
  short : name.length ≤ 1024
  allowed : ∀ c ∈ name, isAllowed c = true

namespace Cursor

theorem atMark_of_head {c : Cursor} {mark : Char} (h : ∀ x ∈ c.rest.head?, x ≠ mark) :
    c.atMark mark = false := by
  unfold atMark
  split
  · rename_i hc
    have hne := h _ (by rw [hc]; rfl)
    simp [hne]
  · rfl

end Cursor

namespace IsName

variable {name w : List Char} {x : Char} {c : Cursor}

theorem beginsToken (h : IsName name) (tail : List Char) : BeginsToken (name ++ tail) := by
  obtain ⟨x, xs, rfl⟩ := List.exists_cons_of_ne_nil h.word.ne_nil
  rintro d ⟨⟩
  have hletter := h.letter x rfl
  refine ⟨h.word.dark x List.mem_cons_self, ?_, ?_⟩
  · rintro rfl
    exact absurd hletter (by decide)
  · rintro rfl
    exact absurd hletter (by decide)

theorem beginsPlain {xs : List Char} (h : IsName (x :: xs)) (tail : List Char) :
    BeginsPlain x (xs ++ tail) := by
  have hletter := h.letter x rfl
  refine ⟨h.word.dark x List.mem_cons_self, fun hx => ?_, ?_⟩
  · have hmarks : (marks.toList.all fun y => !y.isAlpha) = true := rfl
    have hnot := List.all_eq_true.mp hmarks x hx
    rw [hletter] at hnot
    cases hnot
  · rintro (rfl | rfl | rfl) <;> exact absurd hletter (by decide)

theorem atMark (h : IsName name) (hc : c.rest = name ++ w) {mark : Char}
    (hmark : mark.isAlpha = false) : c.atMark mark = false := by
  obtain ⟨x, xs, rfl⟩ := List.exists_cons_of_ne_nil h.word.ne_nil
  refine Cursor.atMark_of_head fun y hy => ?_
  rw [hc] at hy
  cases hy
  rintro rfl
  exact absurd ((h.letter _ rfl).symm.trans hmark) (by decide)

end IsName

namespace Layout

variable {s : Layout} {fuel k : Nat} {x : Char} {cs w rest : List Char} {tokens : List Token}
  {c : Cursor}

theorem closeTo_of_le {column indent : Int} (outer : List Int) (h : indent ≤ column) :
    closeTo column indent outer = (0, indent, outer) := by
  cases outer with
  | nil => rfl
  | cons next outer => rw [closeTo, if_neg (Int.not_lt.mpr h)]

theorem dedentTo_of_le {column : Int} (h : s.indent ≤ column) : s.dedentTo column = s := by
  rw [dedentTo, closeTo_of_le _ h]
  simp

theorem refreshKeys_of_fresh (hflow : s.enclosing = [])
    (hkey : ∀ k ∈ s.key, k.isStale s.cursor = false) : s.refreshKeys = some s := by
  obtain ⟨cursor, tokens, indent, outer, key, enclosing, keyAllowed⟩ := s
  subst hflow
  cases key with
  | none => rfl
  | some k =>
    have hfresh := hkey k rfl
    simp [refreshKeys, refresh, hfresh]

theorem skipSpacing_token (hc : s.cursor.rest = List.replicate k ' ' ++ w) (hw : BeginsToken w) :
    s.skipSpacing (fuel + 1) = { s with cursor := s.cursor.skip k } := by
  have hbom : (s.cursor.rest.head? == some '\ufeff') = false := by
    rw [hc]
    cases k with
    | zero =>
      cases w with
      | nil => rfl
      | cons x w => simpa using (hw x rfl).2.2
    | succ k => rfl
  have hspaces : s.cursor.rest.takeWhile
      (fun x => x == ' ' || (x == '\t' && (s.inFlow || !s.keyAllowed))) = List.replicate k ' ' := by
    rw [hc, List.takeWhile_append_of_pos (by simp)]
    cases w with
    | nil => simp
    | cons x w =>
      obtain ⟨hspace, htab⟩ := Bool.or_eq_false_iff.mp (isBlank_of_dark (hw x rfl).1)
      simp [hspace, htab]
  have hnext : (s.cursor.skip k).rest = w := by
    rw [Cursor.skip_rest, hc]
    simp
  have hsharp : (w.head? == some '#') = false := by
    cases w with
    | nil => rfl
    | cons x w => simpa using (hw x rfl).2.1
  have hbreak : (s.cursor.skip k).atBreak = false :=
    Cursor.atBreak_of_beginsDark (hnext.symm ▸ hw.beginsDark)
  rw [skipSpacing]
  simp only [hbom, Bool.and_false, Bool.false_eq_true, if_false, Cursor.skipWhile, Cursor.span,
    hspaces, List.length_replicate, hnext, hsharp, hbreak]

theorem skipSpacing_break (hc : s.cursor.rest = '\n' :: rest) (hflow : s.enclosing = []) :
    s.skipSpacing (fuel + 1) =
      skipSpacing fuel { s with cursor := s.cursor.nextLine, keyAllowed := true } := by
  have hinFlow : s.inFlow = false := by simp [inFlow, hflow]
  have hblanks : s.cursor.skipWhile
      (fun x => x == ' ' || (x == '\t' && (s.inFlow || !s.keyAllowed))) = s.cursor := by
    simp [Cursor.skipWhile, Cursor.span, hc]
  have hbom : (s.cursor.rest.head? == some '\ufeff') = false := by
    rw [hc]
    rfl
  have hsharp : (s.cursor.rest.head? == some '#') = false := by
    rw [hc]
    rfl
  have hbreak : s.cursor.atBreak = true := by
    rw [Cursor.atBreak_cons hc]
    rfl
  rw [skipSpacing]
  simp only [hbom, Bool.and_false, Bool.false_eq_true, if_false, hblanks, hsharp, hbreak, if_true,
    Cursor.skipBreak, Cursor.readBreak_plainBreak hc (.inl rfl)]
  rw [hinFlow, Bool.not_false, Bool.or_true]

theorem run_token (hc : s.cursor.rest = List.replicate k ' ' ++ x :: cs)
    (hx : BeginsToken (x :: cs)) (hflow : s.enclosing = [])
    (hkey : ∀ key ∈ s.key, key.isStale (s.cursor.skip k) = false)
    (hindent : s.indent ≤ (s.cursor.column + k : Nat)) :
    s.run (fuel + 1) =
      ({ s with cursor := s.cursor.skip k }.readToken x cs).bind (run fuel) := by
  have hnext : (s.cursor.skip k).rest = x :: cs := by
    rw [Cursor.skip_rest, hc]
    simp
  have hkeys : { s with cursor := s.cursor.skip k }.refreshKeys =
      some { s with cursor := s.cursor.skip k } := refreshKeys_of_fresh hflow hkey
  have hdedent : { s with cursor := s.cursor.skip k }.dedentTo (s.cursor.column + k : Nat) =
      { s with cursor := s.cursor.skip k } := dedentTo_of_le hindent
  rw [run, skipSpacing_token hc hx, hkeys]
  simp only [Option.bind_eq_bind, Option.bind_some, hnext, Cursor.skip_column, hdedent]

theorem startsPlain_of_beginsPlain (h : BeginsPlain x cs) : startsPlain false x cs = true := by
  by_cases hindicator : x = '-' ∨ x = '?' ∨ x = ':'
  · have hnot := h.in_word hindicator
    rcases hindicator with rfl | rfl | rfl
    · cases cs with
      | nil => cases hnot
      | cons y ys => simp [startsPlain, isBlank_of_dark hnot]
    · simp [startsPlain, hnot]
    · simp [startsPlain, hnot]
  · have hmark := h.not_mark
    simp only [marks, String.reduceToList, List.mem_cons, ↓Char.isValue, List.not_mem_nil, or_false,
      not_or] at hmark hindicator
    rw [startsPlain, String.contains_char_eq, h.dark]
    simp [hmark, hindicator]

theorem readToken_plain (h : BeginsPlain x cs) (hflow : s.enclosing = [])
    (hdash : s.cursor.atMark '-' = false) (hpoint : s.cursor.atMark '.' = false) :
    s.readToken x cs = s.plain := by
  have hinFlow : s.inFlow = false := by simp [inFlow, hflow]
  have hstarts := startsPlain_of_beginsPlain h
  have hindicator : ∀ y, y = '-' ∨ y = '?' ∨ y = ':' → (x == y && endsWord cs) = false := by
    intro y hy
    rw [Bool.and_eq_false_imp, beq_iff_eq]
    rintro rfl
    exact h.in_word hy
  have hmark := h.not_mark
  simp only [marks, String.reduceToList, List.mem_cons, ↓Char.isValue, List.not_mem_nil, or_false,
    not_or] at hmark
  rw [readToken, hdash, hpoint, hinFlow]
  simp [hmark, hstarts, hindicator]

def atLine (opened : Bool) (tokens : List Token) (c : Cursor) : Layout :=
  { cursor := c, tokens, indent := if opened then 0 else -1, outer := if opened then [-1] else [] }

def behindName (opened : Bool) (tokens : List Token) (name : List Char) (c : Cursor) : Layout :=
  { atLine opened (tokens ++ [.scalar .plain (String.ofList name)]) (c.skip name.length) with
    key := some ⟨tokens.length, c.index, c.line, 0, opened⟩, keyAllowed := false }

def behindColon (tokens : List Token) (c : Cursor) : Layout :=
  { cursor := c, tokens, indent := 0, outer := [-1], keyAllowed := false }

def keyTokens (opened : Bool) (name : List Char) : List Token :=
  (if opened then [] else [.blockMappingStart]) ++ [.key, .scalar .plain (String.ofList name), .value]

section Key

variable {name : List Char}

theorem insertIdx_append (ts us : List Token) (t : Token) :
    (ts ++ us).insertIdx ts.length t = ts ++ t :: us := by
  induction ts with
  | nil => simp
  | cons u ts ih => simp [ih]

/-- The name at the start of a line may be a key. -/
theorem run_name (opened : Bool) (hname : IsName name) (hc : c.rest = name ++ ':' :: w)
    (hw : endsWord w = true) (hcolumn : c.column = 0) :
    (atLine opened tokens c).run (fuel + 1) = run fuel (behindName opened tokens name c) := by
  have hdash : c.atMark '-' = false := hname.atMark hc rfl
  have hpoint : c.atMark '.' = false := hname.atMark hc rfl
  have hnotMark : c.atDocumentMark = false := by
    rw [Cursor.atDocumentMark, hdash, hpoint]
    rfl
  have hstop : plainWord false (':' :: w) = some [] := by
    simp [plainWord, isSpacing, isBlank, isBreak, hw]
  have hread : ∀ indent, readPlain false indent (c.rest.length + 1) [] {} c =
      some (name, false, c.skip name.length) := by
    intro indent
    rw [readPlain_word hnotMark hc hname.word hstop]
    simp [endsWord, isSpacing, isBlank, isBreak, Gap.text]
  have hplain : (atLine opened tokens c).plain = some (behindName opened tokens name c) := by
    cases opened <;>
      simp [plain, saveKey, dropKey, behindName, atLine, inFlow, hread, push, hcolumn]
  obtain ⟨x, xs, rfl⟩ := List.exists_cons_of_ne_nil hname.word.ne_nil
  have hindent : (atLine opened tokens c).indent ≤ 0 := by
    cases opened <;> simp [atLine]
  have htoken := (readToken_plain (s := atLine opened tokens c) (hname.beginsPlain (':' :: w)) rfl
    hdash hpoint).trans hplain
  exact (run_token (k := 0) hc (hname.beginsToken _) rfl (by rintro key ⟨⟩)
    (Int.le_trans hindent (Int.natCast_nonneg _))).trans (congrArg (Option.bind · (run fuel)) htoken)

theorem run_colon (opened : Bool) (hname : IsName name) (hc : c.rest = name ++ ':' :: w)
    (hw : endsWord w = true) :
    run (fuel + 1) (behindName opened tokens name c) =
      run fuel (behindColon (tokens ++ keyTokens opened name) (c.skip (name.length + 1))) := by
  have hnext : (behindName opened tokens name c).cursor.rest = ':' :: w := by
    simp [behindName, atLine, hc]
  have hplace : (behindName opened tokens name c).cursor.column ≠ 0 := by
    simp [behindName, atLine, hname.word.ne_nil]
  have hfresh : ∀ key ∈ (behindName opened tokens name c).key,
      key.isStale (((behindName opened tokens name c).cursor).skip 0) = false := by
    rintro key ⟨⟩
    simpa [Candidate.isStale, behindName, atLine, Cursor.skip] using hname.short
  have hindent : (behindName opened tokens name c).indent ≤ 0 := by
    cases opened <;> simp [behindName, atLine]
  have hbegins : BeginsToken (':' :: w) := by
    rintro d ⟨⟩
    decide
  have hvalue : (behindName opened tokens name c).value =
      some (behindColon (tokens ++ keyTokens opened name) (c.skip (name.length + 1))) := by
    cases opened <;>
      simp [value, behindName, behindColon, atLine, keyTokens, indentTo, inFlow, mark, push,
        insertIdx_append]
  have htoken : (behindName opened tokens name c).readToken ':' w =
      (behindName opened tokens name c).value := by
    simp [readToken, Cursor.atMark_of_column hplace, hw]
  exact (run_token (k := 0) hnext hbegins rfl hfresh (Int.le_trans hindent (Int.natCast_nonneg _))).trans
    (congrArg (Option.bind · (run fuel)) (htoken.trans hvalue))

theorem run_key (opened : Bool) (hname : IsName name) (hc : c.rest = name ++ ':' :: w)
    (hw : endsWord w = true) (hcolumn : c.column = 0) :
    (atLine opened tokens c).run (fuel + 2) =
      run fuel (behindColon (tokens ++ keyTokens opened name) (c.skip (name.length + 1))) :=
  (run_name opened hname hc hw hcolumn).trans (run_colon opened hname hc hw)

end Key

/-- The value of an entry is read as a scalar, and the next line follows. Behind a quote one more step
is needed to see that the line ends. -/
def ReadsValue (tokens : List Token) (c : Cursor) (style : Style) (text rest : List Char) : Prop :=
  ∃ c', c'.rest = rest ∧ c'.column = 0 ∧ ∀ fuel, run (fuel + 2) (behindColon tokens c) =
    run (fuel + 1) (atLine true (tokens ++ [.scalar style (String.ofList text)]) c')

section Value

theorem run_behindColon (hc : c.rest = ' ' :: x :: cs) (hx : BeginsToken (x :: cs)) :
    run (fuel + 1) (behindColon tokens c) =
      ((behindColon tokens (c.skip 1)).readToken x cs).bind (run fuel) :=
  run_token (k := 1) (s := behindColon tokens c) hc hx rfl (by rintro key ⟨⟩) (Int.natCast_nonneg _)

theorem endsWord_append_break (cs rest : List Char) :
    endsWord (cs ++ '\n' :: rest) = endsWord cs := by
  cases cs <;> rfl

theorem readsValue_words (hwords : IsWords cs) (hmark : startsWithMark cs = false)
    (hbom : cs.head? ≠ some '\ufeff') (hrest : BeginsDark rest)
    (hc : c.rest = ' ' :: (cs ++ '\n' :: rest)) : ReadsValue tokens c .plain cs rest := by
  have hnext : (c.skip 1).rest = cs ++ '\n' :: rest := by simp [hc]
  have hplace : (c.skip 1).column ≠ 0 := by simp
  have hlength : cs.length < (c.skip 1).rest.length + 1 := by
    rw [hnext, List.length_append]
    omega
  have hright : (0 + 1 : Int) ≤ (c.skip 1).column := by
    rw [Cursor.skip_column]
    omega
  obtain ⟨c', hread, hlast, hcolumn⟩ : ∃ c', readPlain false (0 + 1) ((c.skip 1).rest.length + 1) []
      {} (c.skip 1) = some ([] ++ Gap.text {} ++ cs, true, c') ∧ c'.rest = rest ∧ c'.column = 0 :=
    readPlain_words hwords hrest (by decide) hlength hright hnext
  have hplain : (behindColon tokens (c.skip 1)).plain =
      some (atLine true (tokens ++ [.scalar .plain (String.ofList cs)]) c') := by
    simp only [plain, saveKey, behindColon, Bool.false_eq_true, if_false, inFlow, List.isEmpty_nil,
      Bool.not_true, Option.bind_eq_bind, Option.bind_some, hread]
    rfl
  have hdark := hwords.beginsDark ('\n' :: rest)
  refine ⟨c', hlast, hcolumn, fun fuel => ?_⟩
  cases cs with
  | nil => cases (hdark '\n' rfl)
  | cons x xs =>
    have hplainly := beginsPlain_of_noMark (hdark x rfl) hmark
    have hline : BeginsPlain x (xs ++ '\n' :: rest) :=
      ⟨hplainly.dark, hplainly.not_mark, by simpa [endsWord_append_break] using hplainly.in_word⟩
    have hbegins : BeginsToken (x :: (xs ++ '\n' :: rest)) := by
      rintro d ⟨⟩
      exact ⟨hplainly.dark, hplainly.ne_sharp, fun hx => hbom (congrArg some hx)⟩
    have htoken := readToken_plain hline (s := behindColon tokens (c.skip 1)) rfl
      (Cursor.atMark_of_column hplace _) (Cursor.atMark_of_column hplace _)
    rw [List.cons_append] at hc
    rw [run_behindColon hc hbegins, htoken, hplain, Option.bind_some]

theorem run_break (hc : s.cursor.rest = '\n' :: rest) (hflow : s.enclosing = [])
    (hrest : BeginsToken rest) :
    s.run (fuel + 1) = run (fuel + 1) { s with cursor := s.cursor.nextLine, keyAllowed := true } := by
  have hnext : s.cursor.nextLine.rest = rest := by simp [hc]
  have hskip : s.skipSpacing (s.cursor.rest.length + 1) =
      { s with cursor := s.cursor.nextLine, keyAllowed := true } := by
    rw [skipSpacing_break hc hflow, hc]
    exact skipSpacing_token (k := 0) hnext hrest
  have hsame : skipSpacing (s.cursor.nextLine.rest.length + 1)
      { s with cursor := s.cursor.nextLine, keyAllowed := true } =
        { s with cursor := s.cursor.nextLine, keyAllowed := true } :=
    skipSpacing_token (k := 0) hnext hrest
  rw [run, run, hskip, hsame]

theorem readsValue_quoted (single : Bool) {written : List Char} (hrest : BeginsToken rest)
    (hc : c.rest = ' ' :: (if single then '\'' else '"') :: written)
    (hread : Finds (readQuoted single ((c.skip 1).rest.length + 1) ((c.skip 1).skip 1)) cs
      ('\n' :: rest)) : ReadsValue tokens c .quoted cs rest := by
  obtain ⟨c', hread, hc'⟩ := hread
  have hplace : (c.skip 1).column ≠ 0 := by simp
  have hquoted : (behindColon tokens (c.skip 1)).quoted single =
      some (behindColon (tokens ++ [.scalar .quoted (String.ofList cs)]) c') := by
    simp only [quoted, word, saveKey, behindColon, Bool.false_eq_true, if_false,
      Option.bind_eq_bind, Option.bind_some, hread]
    rfl
  have hbegins : BeginsToken ((if single then '\'' else '"') :: written) := by
    intro d hd
    cases single <;> cases hd <;> decide
  have htoken : (behindColon tokens (c.skip 1)).readToken (if single then '\'' else '"') written =
      (behindColon tokens (c.skip 1)).quoted single := by
    have hdash := Cursor.atMark_of_column hplace '-'
    have hpoint := Cursor.atMark_of_column hplace '.'
    rw [readToken]
    cases single <;> simp [behindColon, hdash, hpoint]
  refine ⟨c'.nextLine, by simp [hc'], rfl, fun fuel => ?_⟩
  rw [run_behindColon hc hbegins, htoken, hquoted, Option.bind_some]
  exact run_break hc' rfl hrest

theorem readsValue_literal (hne : cs ≠ []) (hcs : ∀ c ∈ cs, isPrintable c = true)
    (hrest : BeginsDark rest) (hc : c.rest = ' ' :: (header cs ++ '\n' :: (linesFrom true cs ++
      (linesEnd true cs ++ rest)))) : ReadsValue tokens c .literal cs rest := by
  have hplace : (c.skip 1).column ≠ 0 := by simp
  have hhead : ((c.skip 1).skip 1).rest = (header cs).tail ++ '\n' :: (linesFrom true cs ++
      (linesEnd true cs ++ rest)) := by
    rw [Cursor.skip_rest, Cursor.skip_rest, hc]
    rfl
  obtain ⟨c', hread, hlast, hcolumn⟩ := readBlock_literal hne hcs hrest hhead
  have hblock : (behindColon tokens (c.skip 1)).block false =
      some (atLine true (tokens ++ [.scalar .literal (String.ofList cs)]) c') := by
    simp only [block, dropKey, behindColon, Option.any_none, Bool.false_eq_true, if_false,
      Option.bind_eq_bind, Option.bind_some, hread]
    rfl
  have hbegins : BeginsToken (header cs ++ '\n' :: (linesFrom true cs ++
      (linesEnd true cs ++ rest))) := by
    rintro d ⟨⟩
    decide
  have htoken : ∀ w, (behindColon tokens (c.skip 1)).readToken '|' w =
      (behindColon tokens (c.skip 1)).block false := by
    intro w
    have hdash := Cursor.atMark_of_column hplace '-'
    have hpoint := Cursor.atMark_of_column hplace '.'
    rw [readToken]
    simp [behindColon, inFlow, hdash, hpoint]
  refine ⟨c', hlast, hcolumn, fun fuel => ?_⟩
  rw [run_behindColon hc hbegins, htoken, hblock, Option.bind_some]

/-- What is written behind the colon and the space of an entry is read as a scalar. -/
def IsValue (written : List Char) (style : Style) (text : List Char) : Prop :=
  ∀ (tokens : List Token) (c : Cursor) (rest : List Char), BeginsToken rest →
    c.rest = ' ' :: (written ++ rest) → ReadsValue tokens c style text rest

theorem isValue_words (hwords : IsWords cs) (hmark : startsWithMark cs = false)
    (hbom : cs.head? ≠ some '\ufeff') : IsValue (cs ++ ['\n']) .plain cs := by
  intro tokens c rest hrest hc
  exact readsValue_words hwords hmark hbom hrest.beginsDark (by simpa using hc)

theorem isValue_alphanum (hne : cs ≠ []) (hcs : ∀ c ∈ cs, c.isAlphanum = true) :
    IsValue (cs ++ ['\n']) .plain cs := by
  have hdark : ∀ c ∈ cs, isSpacing c = false := fun c hc => dark_of_isAlphanum (hcs c hc)
  have hnot : ∀ {c : Char}, c.isAlphanum = false → c ∉ cs := by
    intro c hc hmem
    exact absurd ((hcs c hmem).symm.trans hc) (by decide)
  have hword : IsWord cs := ⟨hne, hdark, fun h => hnot (by decide) (List.mem_of_head? h),
    fun h => hnot (by decide) (List.mem_of_getLast? h)⟩
  have hmark : startsWithMark cs = false := by
    obtain ⟨x, xs, rfl⟩ := List.exists_cons_of_ne_nil hne
    have hx : ∀ {y : Char}, y.isAlphanum = false → x ≠ y := by
      rintro y hy rfl
      exact hnot hy List.mem_cons_self
    have hdash : x ≠ '-' := hx rfl
    have hpoint : x ≠ '.' := hx rfl
    rw [startsWithMark, String.contains_char_eq]
    simp [hx, List.isPrefixOf, hdash.symm, hpoint.symm]
  exact isValue_words (.word hword) hmark fun h => hnot (by decide) (List.mem_of_head? h)

theorem isValue_quoted (single : Bool) {inner : List Char}
    (hread : ∀ {c : Cursor} {rest : List Char}, rest.head? ≠ some '\'' →
      c.rest = (if single then '\'' else '"') :: (inner ++ (if single then '\'' else '"') :: rest) →
        Finds (readQuoted single (c.rest.length + 1) (c.skip 1)) cs rest) :
    IsValue ((if single then '\'' else '"') :: inner ++ [if single then '\'' else '"', '\n'])
      .quoted cs := by
  intro tokens c rest hrest hc
  have hquoted : c.rest = ' ' :: (if single then '\'' else '"') ::
      (inner ++ (if single then '\'' else '"') :: '\n' :: rest) := by
    rw [hc]
    simp
  have hnext : (c.skip 1).rest = (if single then '\'' else '"') ::
      (inner ++ (if single then '\'' else '"') :: '\n' :: rest) := by
    rw [Cursor.skip_rest, hquoted]
    rfl
  exact readsValue_quoted single hrest hquoted (hread (by rintro ⟨⟩) hnext)

theorem isValue_literal (hne : cs ≠ []) (hcs : ∀ c ∈ cs, isPrintable c = true) :
    IsValue (header cs ++ '\n' :: linesFrom true cs ++
      (if cs.getLast?.any isBreak then [] else ['\n'])) .literal cs := by
  intro tokens c rest hrest hc
  refine readsValue_literal hne hcs hrest.beginsDark ?_
  rw [hc, linesEnd_eq true hne]
  simp

/-- A text is read as it is written. -/
theorem isValue_writeText (text : String) :
    ∃ style, IsValue (writeText text) style text.toList := by
  unfold writeText
  rcases form_cases text with ⟨hform, hne, hplain⟩ | ⟨hform, hsingle⟩ | hform | ⟨hform, hne, hliteral⟩
  · have hbom : text.toList.head? ≠ some '\ufeff' := by
      intro hhead
      have hprintable := isPrintable_of_plainAllowed hplain _ (List.mem_of_head? hhead)
      exact absurd hprintable (by decide)
    rw [hform]
    exact ⟨.plain, isValue_words (isWords_of_plainAllowed hplain hne)
      (startsWithMark_of_plainAllowed hplain) hbom⟩
  · rw [hform]
    exact ⟨.quoted, isValue_quoted true fun hrest hc => readQuoted_single hsingle hrest hc⟩
  · rw [hform]
    exact ⟨.quoted, isValue_quoted false fun hrest hc => readQuoted_double hrest hc⟩
  · rw [hform]
    exact ⟨.literal, isValue_literal hne (isPrintable_of_literalAllowed hliteral)⟩

end Value

/-- An entry on a line of the mapping. -/
theorem run_entry (opened : Bool) (tokens : List Token) {name written text : List Char} {style : Style}
    (hname : IsName name) (hvalue : IsValue written style text) (hrest : BeginsToken rest)
    (hc : c.rest = name ++ ':' :: ' ' :: (written ++ rest)) (hcolumn : c.column = 0) :
    ∃ c', c'.rest = rest ∧ c'.column = 0 ∧ ∀ fuel, (atLine opened tokens c).run (fuel + 4) =
      (atLine true (tokens ++ keyTokens opened name ++ [.scalar style (String.ofList text)])
        c').run (fuel + 1) := by
  have hnext : (c.skip (name.length + 1)).rest = ' ' :: (written ++ rest) := by
    simp [hc, ← List.drop_drop]
  obtain ⟨c', hlast, hcolumn', hrun⟩ := hvalue (tokens ++ keyTokens opened name) _ rest hrest hnext
  exact ⟨c', hlast, hcolumn', fun fuel => (run_key opened hname hc rfl hcolumn).trans (hrun fuel)⟩

theorem run_end (hc : c.rest = []) :
    ((atLine true tokens c).run (fuel + 1)).map (·.tokens) = some (tokens ++ [.blockEnd]) := by
  have hskip : (atLine true tokens c).skipSpacing ((atLine true tokens c).cursor.rest.length + 1) =
      atLine true tokens c := skipSpacing_token (k := 0) hc (by rintro d ⟨⟩)
  have hkeys : (atLine true tokens c).refreshKeys = some (atLine true tokens c) :=
    refreshKeys_of_fresh rfl (by rintro key ⟨⟩)
  have hrest : (atLine true tokens c).cursor.rest = [] := hc
  rw [run, hskip, hkeys]
  simp only [Option.bind_eq_bind, Option.bind_some, hrest]
  rfl

end Layout
end Yaml
end LinkShelf
