import LinkShelf.Query.Token

/-! The words of a search string, cut out in two stages: first every character is marked, then the
marked characters are cut at the separators and each word is read on its own. The scan, which does
both in one pass, finds the same tokens. -/
namespace LinkShelf
namespace Query

/-- What a kept character is to the words of a search string. -/
inductive Mark where
  | plain (c : Char)
  | literal (c : Char)
  | separator
  deriving DecidableEq, Repr

namespace Mark

def isSeparator : Mark → Bool
  | separator => true
  | _ => false

def isLiteral : Mark → Bool
  | literal _ => true
  | _ => false

def isName : Mark → Bool
  | plain c => Text.isWordChar c
  | _ => false

def letter? : Mark → Option Char
  | plain c => some c
  | literal c => some c
  | separator => none

end Mark

/-- The marks of the characters. Escapes and quotes get none; they say how the others are marked. -/
def marks (quoted escaped : Bool) : List Char → List Mark
  | [] => []
  | c :: cs =>
    if escaped then .literal c :: marks quoted false cs
    else if c = '\\' then marks quoted true cs
    else if c = '"' then marks (!quoted) false cs
    else if quoted then .literal c :: marks quoted false cs
    else if Text.isWhite c then .separator :: marks quoted false cs
    else .plain c :: marks quoted false cs

def spelled (ms : List Mark) : List Char := ms.filterMap Mark.letter?

/-- `#name` or `-#name` in plain characters, with whether it is negated. -/
def tag? : List Mark → Option (Bool × List Char)
  | .plain '-' :: .plain '#' :: name =>
    if !name.isEmpty && name.all Mark.isName then some (true, spelled name) else none
  | .plain '#' :: name =>
    if !name.isEmpty && name.all Mark.isName then some (false, spelled name) else none
  | _ => none

def endKinds (ms : List Mark) : List TokenKind :=
  if ms.isEmpty then []
  else
    match tag? ms with
    | some (true, name) => [.not, .tag (String.ofList name)]
    | some (false, name) => [.tag (String.ofList name)]
    | none => [.text (String.ofList (spelled ms))]

/-- The tokens of a word: a qualifier for each `url:` in front, then those of the rest. -/
def wordKinds : List Mark → List TokenKind
  | .plain 'u' :: .plain 'r' :: .plain 'l' :: .plain ':' :: ms => .qualifier .url :: wordKinds ms
  | ms => endKinds ms

/-- The words between the separators. -/
def cut (ms : List Mark) : List (List Mark) := ms.splitOnP Mark.isSeparator

def urlMarks : List Mark := [.plain 'u', .plain 'r', .plain 'l']

@[simp] theorem spelled_append (as bs : List Mark) :
    spelled (as ++ bs) = spelled as ++ spelled bs := by simp [spelled]

@[simp] theorem spelled_plain (c : Char) : spelled [.plain c] = [c] := rfl

@[simp] theorem spelled_literal (c : Char) : spelled [.literal c] = [c] := rfl

@[simp] theorem spelled_map_plain (cs : List Char) : spelled (cs.map .plain) = cs := by
  induction cs with
  | nil => rfl
  | cons c cs ih => simpa [spelled, Mark.letter?] using ih

theorem all_isName_map_plain (cs : List Char) :
    (cs.map Mark.plain).all Mark.isName = cs.all Text.isWordChar := by
  induction cs with
  | nil => rfl
  | cons c cs ih => rw [List.map_cons, List.all_cons, List.all_cons, ih]; rfl

theorem tag?_map_plain (cs : List Char) : tag? (cs.map .plain) = Word.readTag cs := by
  unfold Word.readTag
  split
  · simp only [List.map_cons, tag?, List.isEmpty_map, all_isName_map_plain, spelled_map_plain]
  · simp only [List.map_cons, tag?, List.isEmpty_map, all_isName_map_plain, spelled_map_plain]
  · rename_i hminus hhash
    unfold tag?
    split
    · rename_i name hm
      obtain ⟨c, cs, rfl, hc, hm⟩ := List.map_eq_cons_iff.mp hm
      obtain ⟨d, name, rfl, hd, -⟩ := List.map_eq_cons_iff.mp hm
      cases hc
      cases hd
      exact absurd rfl (hminus name)
    · rename_i name hm
      obtain ⟨c, name, rfl, hc, -⟩ := List.map_eq_cons_iff.mp hm
      cases hc
      exact absurd rfl (hhash name)
    · rfl

theorem all_isName_of_literal {ms : List Mark} (h : ms.any Mark.isLiteral = true) :
    ms.all Mark.isName = false := by
  obtain ⟨m, hm, hl⟩ := List.any_eq_true.mp h
  have hn : m.isName = false := by
    cases m <;> first | rfl | simp [Mark.isLiteral] at hl
  exact List.all_eq_false.mpr ⟨m, hm, by simp [hn]⟩

theorem tag?_of_literal {ms : List Mark} (h : ms.any Mark.isLiteral = true) : tag? ms = none := by
  unfold tag?
  split
  · rename_i name
    have hname : name.any Mark.isLiteral = true := by simpa [Mark.isLiteral] using h
    simp [all_isName_of_literal hname]
  · rename_i name
    have hname : name.any Mark.isLiteral = true := by simpa [Mark.isLiteral] using h
    simp [all_isName_of_literal hname]
  · rfl

theorem wordKinds_url (ms : List Mark) :
    wordKinds (urlMarks ++ .plain ':' :: ms) = .qualifier .url :: wordKinds ms := by
  simp only [urlMarks, List.cons_append, List.nil_append, wordKinds]

theorem wordKinds_of_not_prefix {ms : List Mark} (h : ¬ urlMarks ++ [.plain ':'] <+: ms) :
    wordKinds ms = endKinds ms := by
  unfold wordKinds
  split
  · exact absurd (by simp [urlMarks]) h
  · rfl

theorem cut_of_word {ms : List Mark} (h : ∀ m ∈ ms, m.isSeparator = false) : cut ms = [ms] :=
  List.splitOnP_eq_singleton h

theorem cut_separator {ms : List Mark} (h : ∀ m ∈ ms, m.isSeparator = false) (rest : List Mark) :
    cut (ms ++ .separator :: rest) = ms :: cut rest :=
  List.splitOnP_append_cons_of_forall_mem h .separator rfl rest

theorem cut_cons {m : Mark} (h : m.isSeparator = false) (ms : List Mark) :
    cut (m :: ms) = (cut ms).modifyHead (m :: ·) := by
  simp only [cut, List.splitOnP_cons_eq_if_modifyHead, h, Bool.false_eq_true, if_false]

theorem flatMap_wordKinds_url (ms : List Mark) :
    (cut (urlMarks ++ .plain ':' :: ms)).flatMap wordKinds =
      .qualifier .url :: (cut ms).flatMap wordKinds := by
  obtain ⟨w, ws, hw⟩ := List.exists_cons_of_ne_nil (List.splitOnP_ne_nil Mark.isSeparator ms)
  have hcut : cut (urlMarks ++ .plain ':' :: ms) = (urlMarks ++ .plain ':' :: w) :: ws := by
    simp only [urlMarks, List.cons_append, List.nil_append]
    rw [cut_cons rfl, cut_cons rfl, cut_cons rfl, cut_cons rfl, cut, hw]
    rfl
  rw [hcut, List.flatMap_cons, wordKinds_url, cut, hw]
  rfl

/-- The marks of the word that is being read. The qualifiers that stood in front of it are gone. -/
structure Word.Spells (w : Word) (ms : List Mark) : Prop where
  letters_eq : spelled ms = w.letters
  literal_eq : ms.any Mark.isLiteral = w.literal
  not_separator : ∀ m ∈ ms, m.isSeparator = false
  not_qualifier : ¬ urlMarks ++ [.plain ':'] <+: ms

namespace Word
namespace Spells

variable {w : Word} {ms : List Mark}

theorem empty : ({} : Word).Spells [] := ⟨rfl, rfl, by simp, by simp [urlMarks]⟩

theorem beginAt (h : w.Spells ms) (i : Nat) : (w.beginAt i).Spells ms :=
  ⟨h.letters_eq, h.literal_eq, h.not_separator, h.not_qualifier⟩

theorem push_literal (h : w.Spells ms) (i : Nat) (c : Char) :
    (w.push i c true).Spells (ms ++ [.literal c]) where
  letters_eq := by simp [Word.push, h.letters_eq]
  literal_eq := by simp [Word.push, Mark.isLiteral]
  not_separator := by
    simpa [or_imp, forall_and, Mark.isSeparator] using h.not_separator
  not_qualifier := by
    rw [List.prefix_concat_iff]
    rintro (heq | hpre)
    · obtain ⟨-, hlast⟩ := List.append_inj' heq rfl
      simp at hlast
    · exact h.not_qualifier hpre

theorem push_plain (h : w.Spells ms) (i : Nat) {c : Char} (hc : c = ':' → ms ≠ urlMarks) :
    (w.push i c false).Spells (ms ++ [.plain c]) where
  letters_eq := by simp [Word.push, h.letters_eq]
  literal_eq := by simp [Word.push, Mark.isLiteral, h.literal_eq]
  not_separator := by
    simpa [or_imp, forall_and, Mark.isSeparator] using h.not_separator
  not_qualifier := by
    rw [List.prefix_concat_iff]
    rintro (heq | hpre)
    · obtain ⟨hms, hlast⟩ := List.append_inj' heq rfl
      exact hc (by simpa using hlast.symm) hms.symm
    · exact h.not_qualifier hpre

theorem eq_map_plain (h : w.Spells ms) (hw : w.literal = false) : ms = w.letters.map .plain := by
  have hplain : ∀ m ∈ ms, ∃ c, m = .plain c := by
    intro m hm
    have hsep := h.not_separator m hm
    have hlit : m.isLiteral = false := by
      have hany := h.literal_eq.trans hw
      simpa using List.any_eq_false.mp hany m hm
    cases m with
    | plain c => exact ⟨c, rfl⟩
    | literal c => simp [Mark.isLiteral] at hlit
    | separator => simp [Mark.isSeparator] at hsep
  rw [← h.letters_eq]
  clear h
  induction ms with
  | nil => rfl
  | cons m ms ih =>
    obtain ⟨c, rfl⟩ := hplain m (by simp)
    have hms := ih fun m hm => hplain m (by simp [hm])
    rw [← List.singleton_append, spelled_append, List.map_append, ← hms]
    rfl

theorem isEmpty_eq (h : w.Spells ms) : ms.isEmpty = w.letters.isEmpty := by
  rw [← h.letters_eq]
  cases ms with
  | nil => rfl
  | cons m ms =>
    have hsep := h.not_separator m (by simp)
    cases m <;> first | rfl | simp [Mark.isSeparator] at hsep

theorem tag?_eq (h : w.Spells ms) :
    tag? ms = if w.literal then none else readTag w.letters := by
  by_cases hw : w.literal = true
  · rw [if_pos hw, tag?_of_literal (h.literal_eq.trans hw)]
  · rw [if_neg hw, h.eq_map_plain (by simpa using hw), tag?_map_plain]

theorem kinds_tokens (h : w.Spells ms) : w.tokens.map Token.kind = endKinds ms := by
  simp only [Word.tokens, endKinds, h.isEmpty_eq, h.tag?_eq, h.letters_eq]
  by_cases hempty : w.letters.isEmpty = true
  · rw [if_pos hempty, if_pos hempty]
    rfl
  · rw [if_neg hempty, if_neg hempty]
    cases (if w.literal then none else readTag w.letters) with
    | none => rfl
    | some t =>
      obtain ⟨negated, name⟩ := t
      cases negated <;> rfl

theorem ofName?_letters (h : w.Spells ms) (hw : w.literal = false) :
    (Qualifier.ofName? (String.ofList w.letters) = some .url ∧ ms = urlMarks) ∨
      (Qualifier.ofName? (String.ofList w.letters) = none ∧ ms ≠ urlMarks) := by
  by_cases hms : ms = urlMarks
  · left
    have hletters : w.letters = ['u', 'r', 'l'] := by rw [← h.letters_eq, hms]; rfl
    exact ⟨by rw [hletters]; rfl, hms⟩
  · right
    refine ⟨?_, hms⟩
    have hname : Qualifier.url.name ≠ String.ofList w.letters := by
      intro heq
      have hletters : w.letters = ['u', 'r', 'l'] := by
        rw [← String.toList_ofList (l := w.letters), ← heq]
        rfl
      exact hms (by rw [h.eq_map_plain hw, hletters]; rfl)
    simp [Qualifier.ofName?, Qualifier.all, hname]

end Spells
end Word

namespace Scan

/-- A step from a word with the marks `ms` emits `out` and leads to `s`, where `behind` gives the
marks of the characters from that step on. -/
def Follows (ms : List Mark) (behind : List Char → List Mark) (out : List Token) (s : Scan) :
    Prop :=
  ∃ next, s.word.Spells next ∧ ∀ rest,
    out.map Token.kind ++ (cut (next ++ marks s.quoted s.escaped rest)).flatMap wordKinds =
      (cut (ms ++ behind rest)).flatMap wordKinds

theorem follows_white {w : Word} {ms : List Mark} (h : w.Spells ms) :
    Follows ms (fun cs => .separator :: marks false false cs) w.tokens { word := {} } := by
  refine ⟨[], Word.Spells.empty, fun rest => ?_⟩
  rw [cut_separator h.not_separator, List.flatMap_cons, h.kinds_tokens,
    wordKinds_of_not_prefix h.not_qualifier]
  rfl

theorem follows_plain {w : Word} {ms : List Mark} (h : w.Spells ms) (i : Nat) {c : Char}
    (hc : c = ':' → ms ≠ urlMarks) :
    Follows ms (fun cs => .plain c :: marks false false cs) []
      { word := w.push i c false } := by
  refine ⟨ms ++ [.plain c], h.push_plain i hc, fun rest => ?_⟩
  simp

theorem follows_qualifier (i : Nat) :
    Follows urlMarks (fun cs => .plain ':' :: marks false false cs) [⟨.qualifier .url, i⟩]
      { word := {} } := by
  refine ⟨[], Word.Spells.empty, fun rest => ?_⟩
  rw [flatMap_wordKinds_url]
  rfl

theorem step_follows_bare {w : Word} {ms : List Mark} (h : w.Spells ms) (i : Nat) {c : Char}
    (hback : c ≠ '\\') (hquote : c ≠ '"') :
    Follows ms (fun cs => marks false false (c :: cs)) (step { word := w } i c).1
      (step { word := w } i c).2 := by
  by_cases hwhite : Text.isWhite c = true
  · have hcolon : c ≠ ':' := by
      rintro rfl
      exact absurd hwhite (by decide)
    simpa [step, marks, hback, hquote, hwhite, hcolon] using follows_white h
  by_cases hcolon : c = ':' ∧ w.literal = false
  · obtain ⟨rfl, hw⟩ := hcolon
    rcases h.ofName?_letters hw with ⟨hname, rfl⟩ | ⟨hname, hms⟩
    · simpa [step, marks, hwhite, hw, hname] using follows_qualifier (w.start.getD i)
    · simpa [step, marks, hwhite, hw, hname] using follows_plain h i fun _ => hms
  · have hms : c = ':' → ms ≠ urlMarks := by
      rintro rfl rfl
      exact hcolon ⟨rfl, h.literal_eq.symm⟩
    simpa [step, marks, hback, hquote, hwhite, hcolon] using follows_plain h i hms

/-- What a step emits is what the mark of its character adds to the tokens of the cut. -/
theorem step_follows {s : Scan} {ms : List Mark} (h : s.word.Spells ms) (i : Nat) (c : Char) :
    Follows ms (fun cs => marks s.quoted s.escaped (c :: cs)) (s.step i c).1 (s.step i c).2 := by
  obtain ⟨w, quoted, escaped⟩ := s
  by_cases hesc : escaped = true
  · refine ⟨ms ++ [.literal c], ?_, fun rest => ?_⟩
    · simpa [step, hesc] using h.push_literal i c
    · simp [step, hesc, marks]
  by_cases hback : c = '\\'
  · refine ⟨ms, ?_, fun rest => ?_⟩
    · simpa [step, hesc, hback] using h
    · simp [step, hesc, hback, marks]
  by_cases hquote : c = '"'
  · refine ⟨ms, ?_, fun rest => ?_⟩
    · cases quoted with
      | true => simpa [step, hesc, hquote] using h
      | false => simpa [step, hesc, hquote] using h.beginAt i
    · cases quoted <;> simp [step, hesc, hquote, marks]
  by_cases hquoted : quoted = true
  · refine ⟨ms ++ [.literal c], ?_, fun rest => ?_⟩
    · simpa [step, hesc, hback, hquote, hquoted] using h.push_literal i c
    · simp [step, hesc, hback, hquote, hquoted, marks]
  · obtain rfl : quoted = false := by simpa using hquoted
    obtain rfl : escaped = false := by simpa using hesc
    exact step_follows_bare h i hback hquote

/-- A whole run emits the tokens of the cut, the word at its end included. -/
theorem run_kinds {s : Scan} {ms : List Mark} (h : s.word.Spells ms) (i : Nat) (cs : List Char) :
    ((s.run i cs).1 ++ (s.run i cs).2.word.tokens).map Token.kind =
      (cut (ms ++ marks s.quoted s.escaped cs)).flatMap wordKinds := by
  induction cs generalizing s i ms with
  | nil =>
    rw [marks, List.append_nil, cut_of_word h.not_separator]
    simp [run, h.kinds_tokens, wordKinds_of_not_prefix h.not_qualifier]
  | cons c cs ih =>
    obtain ⟨next, hnext, hkinds⟩ := step_follows h i c
    have hrest := ih hnext (i + 1)
    simp only [run, List.append_assoc, List.map_append] at hrest ⊢
    rw [hrest, hkinds]

end Scan

/-- The characters that a token takes up in a word. -/
def TokenKind.spelling : TokenKind → List Char
  | text v => v.toList
  | qualifier q => q.name.toList ++ [':']
  | tag name => '#' :: name.toList
  | not => ['-']
  | endOfQuery => []

theorem spelled_of_tag? {ms : List Mark} {negated : Bool} {name : List Char}
    (h : tag? ms = some (negated, name)) :
    spelled ms = (if negated then ['-'] else []) ++ '#' :: name := by
  unfold tag? at h
  split at h
  · split at h
    · cases h
      rfl
    · cases h
  · split at h
    · cases h
      rfl
    · cases h
  · cases h

theorem spelling_endKinds (ms : List Mark) :
    (endKinds ms).flatMap TokenKind.spelling = spelled ms := by
  unfold endKinds
  split
  · rename_i hempty
    rw [List.isEmpty_iff.mp hempty]
    rfl
  · split
    · rename_i name htag
      simp [TokenKind.spelling, spelled_of_tag? htag]
    · rename_i name htag
      simp [TokenKind.spelling, spelled_of_tag? htag]
    · simp [TokenKind.spelling]

theorem spelling_wordKinds (ms : List Mark) :
    (wordKinds ms).flatMap TokenKind.spelling = spelled ms := by
  fun_induction wordKinds ms with
  | case1 ms ih =>
    rw [List.flatMap_cons, ih]
    rfl
  | case2 ms _ => exact spelling_endKinds ms

theorem spelled_cut (ms : List Mark) : (cut ms).flatMap spelled = spelled ms := by
  induction ms with
  | nil => rfl
  | cons m ms ih =>
    by_cases hm : m.isSeparator = true
    · obtain rfl : m = .separator := by cases m <;> first | rfl | cases hm
      have hcut : cut (.separator :: ms) = [] :: cut ms := @cut_separator [] (by simp) ms
      rw [hcut, List.flatMap_cons, ih]
      rfl
    · obtain ⟨w, ws, hw⟩ := List.exists_cons_of_ne_nil (List.splitOnP_ne_nil Mark.isSeparator ms)
      have hcut : cut (m :: ms) = (m :: w) :: ws := by
        rw [cut_cons (by simpa using hm), cut, hw]
        rfl
      have hspelled : spelled w ++ ws.flatMap spelled = spelled ms := by
        rw [← ih, cut, hw, List.flatMap_cons]
      rw [hcut, List.flatMap_cons, ← List.singleton_append, spelled_append, List.append_assoc,
        hspelled, ← spelled_append, List.singleton_append]

/-- The tokens of a search string are those of its words. Together they take up all characters that
are kept, also those behind a quote that stays open. -/
theorem tokenize_eq_words (input : String) :
    (tokenize input).map Token.kind =
        (cut (marks false false input.toList)).flatMap wordKinds ++ [.endOfQuery] ∧
      (tokenize input).flatMap (fun t => t.kind.spelling) =
        spelled (marks false false input.toList) := by
  have hrun := Scan.run_kinds (s := {}) Word.Spells.empty 0 input.toList
  have hkinds : (tokenize input).map Token.kind =
      (cut (marks false false input.toList)).flatMap wordKinds ++ [.endOfQuery] := by
    simp only [tokenize, List.map_append, List.map_cons, List.map_nil] at hrun ⊢
    rw [hrun]
    rfl
  refine ⟨hkinds, ?_⟩
  have hspelling : (fun ms => (wordKinds ms).flatMap TokenKind.spelling) = spelled :=
    funext spelling_wordKinds
  calc (tokenize input).flatMap (fun t => t.kind.spelling)
      = ((tokenize input).map Token.kind).flatMap TokenKind.spelling := by rw [List.flatMap_map]
    _ = ((cut (marks false false input.toList)).flatMap wordKinds).flatMap
          TokenKind.spelling := by
      rw [hkinds, List.flatMap_append]
      simp [TokenKind.spelling]
    _ = (cut (marks false false input.toList)).flatMap spelled := by
      rw [List.flatMap_assoc, hspelling]
    _ = spelled (marks false false input.toList) := spelled_cut _

end Query
end LinkShelf
