import LinkShelf.Proofs.Query.Clauses

/-! Search strings that are put together with white space between them. The scan begins anew behind
the white space, so the tokens are those of both parts, and so are the conditions, unless the first
part ends in a qualifier that takes the text at the front of the second. -/
namespace LinkShelf
namespace Query

def Token.shift (k : Nat) (t : Token) : Token := { t with position := t.position + k }

namespace Word

def shift (k : Nat) (w : Word) : Word := { w with start := w.start.map (· + k) }

/-- A word with letters has a place where it starts. -/
def Started (w : Word) : Prop := w.letters ≠ [] → ∃ i, w.start = some i

variable {w : Word} {k i : Nat}

theorem started_push (w : Word) (i : Nat) (c : Char) (literal : Bool) :
    (w.push i c literal).Started := fun _ => ⟨_, rfl⟩

theorem started_beginAt (w : Word) (i : Nat) : (w.beginAt i).Started := fun _ => ⟨_, rfl⟩

theorem started_empty : ({} : Word).Started := fun h => absurd rfl h

theorem getD_shift (k i : Nat) (w : Word) : (w.shift k).start.getD (i + k) = w.start.getD i + k := by
  simp only [shift]
  cases w.start <;> rfl

theorem push_shift (k i : Nat) (w : Word) (c : Char) (literal : Bool) :
    (w.shift k).push (i + k) c literal = (w.push i c literal).shift k := by
  simp only [push, getD_shift]
  rfl

theorem beginAt_shift (k i : Nat) (w : Word) :
    (w.shift k).beginAt (i + k) = (w.beginAt i).shift k := by
  simp only [beginAt, getD_shift]
  rfl

theorem tokens_shift (hw : w.Started) (k : Nat) :
    (w.shift k).tokens = w.tokens.map (Token.shift k) := by
  by_cases hletters : w.letters = []
  · simp [tokens, shift, hletters]
  obtain ⟨i, hi⟩ := hw hletters
  have hempty : w.letters.isEmpty = false := by simpa using hletters
  simp only [tokens, shift, hi, hempty, Option.map_some, Option.getD_some, Bool.false_eq_true,
    if_false]
  cases (if w.literal then none else readTag w.letters) with
  | none => rfl
  | some t =>
    obtain ⟨negated, name⟩ := t
    cases negated
    · rfl
    · simp [Token.shift]
      omega

end Word

namespace Scan

def shift (k : Nat) (s : Scan) : Scan := { s with word := s.word.shift k }

theorem step_shift {s : Scan} (hs : s.word.Started) (k i : Nat) (c : Char) :
    (s.shift k).step (i + k) c =
      ((s.step i c).1.map (Token.shift k), (s.step i c).2.shift k) := by
  obtain ⟨w, quoted, escaped⟩ := s
  have hpush := fun literal => Word.push_shift k i w c literal
  have hbegin := Word.beginAt_shift k i w
  have htokens := Word.tokens_shift hs k
  have hliteral : (w.shift k).literal = w.literal := rfl
  have hletters : (w.shift k).letters = w.letters := rfl
  simp only [shift, step, hpush, hbegin, htokens, hliteral, hletters, Word.getD_shift]
  split
  · rfl
  split
  · rfl
  split
  · split <;> rfl
  split
  · rfl
  split
  · cases Qualifier.ofName? (String.ofList w.letters) <;> rfl
  split <;> rfl

theorem Reads.started {s next : Scan} {i : Nat} {c : Char} {out : List Token}
    (h : Reads i c s out next) (hs : s.word.Started) : next.word.Started := by
  cases h with
  | escaped | quoted | plain => exact Word.started_push _ _ _ _
  | opening => exact Word.started_beginAt _ _
  | qualifier | white => exact Word.started_empty
  | backslash | closing => exact hs

theorem run_shift {s : Scan} (hs : s.word.Started) (k i : Nat) (cs : List Char) :
    (s.shift k).run (i + k) cs =
      ((s.run i cs).1.map (Token.shift k), (s.run i cs).2.shift k) := by
  induction cs generalizing s i with
  | nil => rfl
  | cons c cs ih =>
    have hrest := ih ((s.reads_step i c).started hs) (i + 1)
    rw [Nat.add_right_comm] at hrest
    simp only [run, step_shift hs, hrest, List.map_append]

theorem started_run {s : Scan} (hs : s.word.Started) (i : Nat) (cs : List Char) :
    (s.run i cs).2.word.Started := by
  induction cs generalizing s i with
  | nil => exact hs
  | cons c cs ih => exact ih ((s.reads_step i c).started hs) (i + 1)

theorem run_append (s : Scan) (i : Nat) (as bs : List Char) :
    s.run i (as ++ bs) =
      ((s.run i as).1 ++ ((s.run i as).2.run (i + as.length) bs).1,
        ((s.run i as).2.run (i + as.length) bs).2) := by
  induction as generalizing s i with
  | nil => simp [run]
  | cons a as ih =>
    have hlength : i + 1 + as.length = i + (as.length + 1) := by omega
    simp only [List.cons_append, run, ih, List.append_assoc, List.length_cons, hlength]

/-- Outside quotes and escapes white space ends the word, and nothing else is left of the scan. -/
theorem step_white {s : Scan} (hquoted : s.quoted = false) (hescaped : s.escaped = false) (i : Nat)
    {c : Char} (hc : Text.isWhite c = true) : s.step i c = (s.word.tokens, {}) := by
  have hback : c ≠ '\\' := by
    rintro rfl
    exact absurd hc (by decide)
  have hquote : c ≠ '"' := by
    rintro rfl
    exact absurd hc (by decide)
  have hcolon : c ≠ ':' := by
    rintro rfl
    exact absurd hc (by decide)
  obtain ⟨w, quoted, escaped⟩ := s
  obtain rfl : quoted = false := hquoted
  obtain rfl : escaped = false := hescaped
  simp [step, hback, hquote, hcolon, hc]

end Scan

/-- The scan of the string ends outside quotes, with no escape that waits for its character. -/
def IsClosed (input : String) : Prop :=
  (Scan.run {} 0 input.toList).2.quoted = false ∧ (Scan.run {} 0 input.toList).2.escaped = false

instance (input : String) : Decidable (IsClosed input) := inferInstanceAs (Decidable (_ ∧ _))

variable {a b : String} {w : Char}

theorem wordTokens_push_append (ha : IsClosed a) (hw : Text.isWhite w = true) (b : String) :
    wordTokens (a.push w ++ b) =
      wordTokens a ++ (wordTokens b).map (Token.shift (a.length + 1)) := by
  have hchars : (a.push w ++ b).toList = a.toList ++ w :: b.toList := by simp
  have hstep := Scan.step_white ha.1 ha.2 (0 + a.toList.length) hw
  have hrun : Scan.run {} (0 + a.toList.length + 1) b.toList =
      ((Scan.run {} 0 b.toList).1.map (Token.shift (a.length + 1)),
        (Scan.run {} 0 b.toList).2.shift (a.length + 1)) := by
    have hshift := Scan.run_shift (s := {}) Word.started_empty (a.length + 1) 0 b.toList
    rwa [String.length_toList, Nat.add_assoc]
  have htokens := Word.tokens_shift (Scan.started_run (s := {}) Word.started_empty 0 b.toList)
    (a.length + 1)
  simp only [wordTokens, hchars, Scan.run_append, Scan.run, hstep, hrun, List.append_assoc,
    List.map_append, Scan.shift, htokens]

theorem kinds_shift (k : Nat) (ts : List Token) :
    (ts.map (Token.shift k)).map Token.kind = ts.map Token.kind := by
  rw [List.map_map]
  rfl

theorem ofString_push_append (ha : IsClosed a) (hw : Text.isWhite w = true) (b : String) :
    ofString (a.push w ++ b) =
      .ok ⟨conditionsOf ((wordTokens a).map Token.kind ++ (wordTokens b).map Token.kind)⟩ := by
  rw [ofString_eq, wordTokens_push_append ha hw, List.map_append, kinds_shift]

def EndsInQualifier (input : String) : Prop :=
  ∃ q i, (tokenize input).dropLast.getLast? = some ⟨.qualifier q, i⟩

def BeginsWithText (input : String) : Prop :=
  ∃ v i, (tokenize input).head? = some ⟨.text v, i⟩

theorem endsInQualifier_iff (input : String) :
    EndsInQualifier input ↔ ∃ q i, (wordTokens input).getLast? = some ⟨.qualifier q, i⟩ := by
  rw [EndsInQualifier, tokenize_eq, List.dropLast_concat]

theorem beginsWithText_of_head {input v : String}
    (h : ((wordTokens input).map Token.kind).head? = some (.text v)) : BeginsWithText input := by
  rw [List.head?_map] at h
  obtain ⟨⟨kind, i⟩, ht, rfl⟩ := Option.map_eq_some_iff.mp h
  exact ⟨v, i, by rw [tokenize_eq, List.head?_append, ht]; rfl⟩

/-- The conditions of two strings with white space between them are those of the one and those of the
other. -/
theorem conditions_push_append (ha : IsClosed a) (hw : Text.isWhite w = true)
    (hseam : ¬ (EndsInQualifier a ∧ BeginsWithText b)) :
    ∃ cs ds, ofString a = .ok ⟨cs⟩ ∧ ofString b = .ok ⟨ds⟩ ∧
      ofString (a.push w ++ b) = .ok ⟨cs ++ ds⟩ := by
  refine ⟨_, _, ofString_eq a, ofString_eq b, ?_⟩
  rw [ofString_push_append ha hw, (clauses_wordTokens a).conditionsOf_append]
  intro q i v hlast hhead
  exact hseam ⟨(endsInQualifier_iff a).mpr ⟨q, i, hlast⟩, beginsWithText_of_head hhead⟩

/-- If the first string ends in a qualifier and the second one begins with a text, these two are one
condition. -/
theorem conditions_push_append_of_seam (ha : IsClosed a) (hw : Text.isWhite w = true)
    {q : Qualifier} {v : String} {i j : Nat}
    (hlast : (tokenize a).dropLast.getLast? = some ⟨.qualifier q, i⟩)
    (hhead : (tokenize b).head? = some ⟨.text v, j⟩) :
    ∃ front rest, ofString a = .ok ⟨front ++ [.text q.name]⟩ ∧
      ofString b = .ok ⟨.text v :: rest⟩ ∧
      ofString (a.push w ++ b) = .ok ⟨front ++ .qualifier q v :: rest⟩ := by
  rw [tokenize_eq, List.dropLast_concat] at hlast
  obtain ⟨as, has⟩ := List.getLast?_eq_some_iff.mp hlast
  obtain ⟨bs, hbs⟩ : ∃ bs, wordTokens b = ⟨.text v, j⟩ :: bs := by
    rw [tokenize_eq] at hhead
    cases hb : wordTokens b with
    | nil => simp [hb] at hhead
    | cons t bs =>
      rw [hb] at hhead
      cases hhead
      exact ⟨bs, rfl⟩
  have hclauses := clauses_wordTokens a
  rw [has] at hclauses
  obtain ⟨halone, htaken⟩ := hclauses.conditionsOf_concat_qualifier v (bs.map Token.kind)
  refine ⟨conditionsOf (as.map Token.kind), conditionsOf (bs.map Token.kind), ?_, ?_, ?_⟩
  · rw [ofString_eq, has, halone]
  · rw [ofString_eq, hbs]
    rfl
  · rw [ofString_push_append ha hw, has, hbs, List.map_cons, htaken]

theorem tokenize_push_append (ha : IsClosed a) (hw : Text.isWhite w = true) (b : String) :
    tokenize (a.push w ++ b) =
      (tokenize a).dropLast ++ (tokenize b).map (Token.shift (a.length + 1)) := by
  have hend : (a.push w ++ b).length + 1 = b.length + 1 + (a.length + 1) := by
    rw [String.length_append, String.length_push]
    omega
  rw [tokenize_eq, tokenize_eq, tokenize_eq, List.dropLast_concat, wordTokens_push_append ha hw,
    List.map_append, List.append_assoc, hend]
  rfl

/-- Two search strings with white space between them have the tokens of both, those of the second one
moved behind the first one, and the conditions of both. Only a qualifier at the end of the first one
and a text at the front of the second one are one condition instead of two. -/
theorem compose_at_white (ha : IsClosed a) (hw : Text.isWhite w = true) (b : String) :
    tokenize (a.push w ++ b) =
      (tokenize a).dropLast ++ (tokenize b).map (Token.shift (a.length + 1)) ∧
    (¬ (EndsInQualifier a ∧ BeginsWithText b) →
      ∃ cs ds, ofString a = .ok ⟨cs⟩ ∧ ofString b = .ok ⟨ds⟩ ∧
        ofString (a.push w ++ b) = .ok ⟨cs ++ ds⟩) ∧
    ∀ q i v j, (tokenize a).dropLast.getLast? = some ⟨.qualifier q, i⟩ →
      (tokenize b).head? = some ⟨.text v, j⟩ →
      ∃ cs ds, ofString a = .ok ⟨cs ++ [.text q.name]⟩ ∧ ofString b = .ok ⟨.text v :: ds⟩ ∧
        ofString (a.push w ++ b) = .ok ⟨cs ++ .qualifier q v :: ds⟩ := by
  refine ⟨tokenize_push_append ha hw b, conditions_push_append ha hw, ?_⟩
  intro q i v j hlast hhead
  exact conditions_push_append_of_seam ha hw hlast hhead

/-- A qualifier behind a quoted text takes a text that would be a tag without its escape. -/
theorem compose_at_white_of_qualifier :
    IsClosed "\"x y\" url:" ∧ Text.isWhite '\u2003' = true ∧
    tokenize ("\"x y\" url:".push '\u2003' ++ "\\-#é -#c") =
      (tokenize "\"x y\" url:").dropLast ++ (tokenize "\\-#é -#c").map (Token.shift 11) ∧
    ∃ cs ds, ofString "\"x y\" url:" = .ok ⟨cs ++ [.text "url"]⟩ ∧
      ofString "\\-#é -#c" = .ok ⟨.text "-#é" :: ds⟩ ∧
      ofString ("\"x y\" url:".push '\u2003' ++ "\\-#é -#c") =
        .ok ⟨cs ++ .qualifier .url "-#é" :: ds⟩ := by
  have hclosed : IsClosed "\"x y\" url:" := by decide
  have hwhite : Text.isWhite '\u2003' = true := by decide
  obtain ⟨htokens, -, hseam⟩ := compose_at_white hclosed hwhite "\\-#é -#c"
  exact ⟨hclosed, hwhite, htokens, hseam .url 6 "-#é" 1 (by decide) (by decide)⟩

end Query
end LinkShelf
