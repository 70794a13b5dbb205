import LinkShelf.Proofs.Query.Clauses
import LinkShelf.Proofs.Query.Words

/-! Queries in writing. A query can be typed exactly if its values are not empty and its tags are
names, and then it is read back from its written form, whether the values are in quotes or all their
characters are escaped. -/
namespace LinkShelf
namespace Text

theorem isWhite_of_isWordChar {c : Char} (h : isWordChar c = true) : isWhite c = false := by
  refine Bool.eq_false_iff.mpr fun hwhite => ?_
  have hnone : inRanges c.toNat wordRanges = false :=
    of_isWhite (P := fun n => inRanges n wordRanges = false) hwhite (by decide +kernel)
  rw [isWordChar, hnone] at h
  cases h

end Text

namespace Query

/-- What can be typed as a condition. -/
def Condition.Typable : Condition → Prop
  | text v => v ≠ ""
  | qualifier _ v => v ≠ ""
  | tag name _ => name ≠ "" ∧ ∀ c ∈ name.toList, Text.isWordChar c = true

def Typable (q : Query) : Prop := ∀ c ∈ q.conditions, c.Typable

def TokenKind.Typable : TokenKind → Prop
  | text v => v ≠ ""
  | tag name => name ≠ "" ∧ ∀ c ∈ name.toList, Text.isWordChar c = true
  | qualifier _ | not | endOfQuery => True

theorem Word.Gives.typable {w : Word} {ts : List Token} (h : w.Gives ts) :
    ∀ t ∈ ts, t.kind.Typable := by
  cases h with
  | nothing => simp
  | negated name _ _ hne hname => simpa [TokenKind.Typable] using ⟨hne, hname⟩
  | tag name _ _ hne hname => simpa [TokenKind.Typable] using ⟨hne, hname⟩
  | text hletters => simpa [TokenKind.Typable] using hletters

namespace Scan

theorem Reads.typable {s next : Scan} {i : Nat} {c : Char} {out : List Token}
    (h : Reads i c s out next) : ∀ t ∈ out, t.kind.Typable := by
  cases h with
  | qualifier => simp [TokenKind.Typable]
  | white w => exact w.gives_tokens.typable
  | _ => simp

theorem typable_run (s : Scan) (i : Nat) (cs : List Char) :
    ∀ t ∈ (s.run i cs).1, t.kind.Typable := by
  induction cs generalizing s i with
  | nil => simp [run]
  | cons c cs ih =>
    intro t ht
    rcases List.mem_append.mp ht with ht | ht
    · exact (s.reads_step i c).typable t ht
    · exact ih (s.step i c).2 (i + 1) t ht

end Scan

theorem typable_wordTokens (input : String) : ∀ t ∈ wordTokens input, t.kind.Typable := by
  intro t ht
  rcases List.mem_append.mp ht with ht | ht
  · exact Scan.typable_run {} 0 input.toList t ht
  · exact (Word.gives_tokens _).typable t ht

theorem typable_conditionsOf {ks : List TokenKind} (h : ∀ k ∈ ks, k.Typable) :
    ∀ c ∈ conditionsOf ks, c.Typable := by
  fun_induction conditionsOf ks with
  | case1 => simp
  | case2 q v ks ih =>
    obtain ⟨-, hv, hks⟩ := by simpa using h
    simpa using ⟨hv, ih hks⟩
  | case3 q ks hks ih =>
    obtain ⟨-, hrest⟩ := by simpa using h
    have hname : (Condition.text q.name).Typable := by
      cases q
      simp [Condition.Typable, Qualifier.name]
    simpa using ⟨hname, ih hrest⟩
  | case4 v ks ih =>
    obtain ⟨hv, hks⟩ := by simpa using h
    simpa using ⟨hv, ih hks⟩
  | case5 name ks ih =>
    obtain ⟨-, hname, hks⟩ := by simpa using h
    simpa using ⟨hname, ih hks⟩
  | case6 name ks ih =>
    obtain ⟨hname, hks⟩ := by simpa using h
    simpa using ⟨hname, ih hks⟩
  | case7 k ks _ _ _ _ _ ih =>
    exact ih fun k' hk' => h k' (by simp [hk'])

/-- The value in quotes, with a backslash before each backslash and each quote in it. -/
def inQuotes (v : String) : String :=
  "\"" ++ String.ofList (v.toList.flatMap fun c => if c = '\\' ∨ c = '"' then ['\\', c] else [c]) ++
    "\""

/-- The value with a backslash before each of its characters. -/
def inEscapes (v : String) : String := String.ofList (v.toList.flatMap fun c => ['\\', c])

def Condition.written (writing : String → String) : Condition → String
  | text v => writing v
  | qualifier q v => q.name ++ ":" ++ writing v
  | tag name false => "#" ++ name
  | tag name true => "-#" ++ name

def written (writing : String → String) (q : Query) : String :=
  String.intercalate " " (q.conditions.map (·.written writing))

/-- A writing makes each character of a value literal, and leaves no quote or escape open. -/
def IsLiteral (writing : String → String) : Prop :=
  ∀ v rest, marks false false ((writing v).toList ++ rest) =
    v.toList.map .literal ++ marks false false rest

theorem marks_quotes (cs rest : List Char) :
    marks true false
        ((cs.flatMap fun c => if c = '\\' ∨ c = '"' then ['\\', c] else [c]) ++ '"' :: rest) =
      cs.map .literal ++ marks false false rest := by
  induction cs with
  | nil => simp [marks]
  | cons c cs ih =>
    by_cases hc : c = '\\' ∨ c = '"'
    · simp only [List.flatMap_cons, if_pos hc, List.cons_append, List.nil_append, List.map_cons]
      simp [marks, ih]
    · simp only [List.flatMap_cons, if_neg hc, List.cons_append, List.nil_append, List.map_cons]
      simp only [not_or] at hc
      simp [marks, ih, hc]

theorem isLiteral_inQuotes : IsLiteral inQuotes := by
  intro v rest
  have hquote : "\"".toList = ['"'] := rfl
  simp only [inQuotes, String.toList_append, String.toList_ofList, hquote, List.cons_append,
    List.nil_append, List.append_assoc]
  rw [← marks_quotes]
  simp [marks]

theorem isLiteral_inEscapes : IsLiteral inEscapes := by
  intro v rest
  rw [inEscapes, String.toList_ofList]
  induction v.toList with
  | nil => simp
  | cons c cs ih => simp [marks, ih]

def isPlain (c : Char) : Bool := c != '\\' && c != '"' && !Text.isWhite c

theorem marks_of_plain {cs : List Char} (h : cs.all isPlain = true) (rest : List Char) :
    marks false false (cs ++ rest) = cs.map .plain ++ marks false false rest := by
  induction cs with
  | nil => rfl
  | cons c cs ih =>
    rw [List.all_cons, Bool.and_eq_true] at h
    obtain ⟨⟨hback, hquote⟩, hwhite⟩ := by simpa [isPlain] using h.1
    simp [marks, hback, hquote, hwhite, ih h.2]

theorem marks_of_name {cs : List Char} (h : ∀ c ∈ cs, Text.isWordChar c = true)
    (rest : List Char) : marks false false (cs ++ rest) = cs.map .plain ++ marks false false rest := by
  refine marks_of_plain (List.all_eq_true.mpr fun c hc => ?_) rest
  have hwhite := Text.isWhite_of_isWordChar (h c hc)
  have hback : c ≠ '\\' := by
    rintro rfl
    simpa using h _ hc
  have hquote : c ≠ '"' := by
    rintro rfl
    simpa using h _ hc
  simp [isPlain, hback, hquote, hwhite]

@[simp] theorem spelled_map_literal (cs : List Char) : spelled (cs.map .literal) = cs := by
  induction cs with
  | nil => rfl
  | cons c cs ih => simpa [spelled, Mark.letter?] using ih

namespace Condition

def marked : Condition → List Mark
  | text v => v.toList.map .literal
  | qualifier q v => q.name.toList.map .plain ++ .plain ':' :: v.toList.map .literal
  | tag name false => .plain '#' :: name.toList.map .plain
  | tag name true => .plain '-' :: .plain '#' :: name.toList.map .plain

def kinds : Condition → List TokenKind
  | text v => [.text v]
  | qualifier q v => [.qualifier q, .text v]
  | tag name false => [.tag name]
  | tag name true => [.not, .tag name]

variable {writing : String → String} {c : Condition}

theorem marks_written (hwriting : IsLiteral writing) (hc : c.Typable) (rest : List Char) :
    marks false false ((c.written writing).toList ++ rest) =
      c.marked ++ marks false false rest := by
  cases c with
  | text v => exact hwriting v rest
  | qualifier q v =>
    have hname : (q.name.toList ++ [':']).all isPlain = true := by
      cases q
      decide
    have hcolon : ":".toList = [':'] := rfl
    simp only [written, String.toList_append, hcolon, List.append_assoc]
    rw [← List.append_assoc, marks_of_plain hname, hwriting]
    simp [marked]
  | tag name excluded =>
    have hname := marks_of_name hc.2 rest
    cases excluded with
    | false =>
      have hhash : "#".toList = ['#'] := rfl
      rw [written, String.toList_append, hhash, List.append_assoc, marks_of_plain (by decide), hname]
      rfl
    | true =>
      have hminus : "-#".toList = ['-', '#'] := rfl
      rw [written, String.toList_append, hminus, List.append_assoc, marks_of_plain (by decide),
        hname]
      rfl

theorem not_separator_of_mem_marked (c : Condition) : ∀ m ∈ c.marked, m.isSeparator = false := by
  cases c with
  | text v => simp [marked, Mark.isSeparator]
  | qualifier q v => simp [marked, Mark.isSeparator, or_imp, forall_and]
  | tag name excluded =>
    cases excluded <;> simp [marked, Mark.isSeparator]

theorem wordKinds_literal {v : String} (h : v ≠ "") :
    wordKinds (v.toList.map .literal) = [.text v] := by
  obtain ⟨c, cs, hv⟩ : ∃ c cs, v.toList = c :: cs :=
    List.exists_cons_of_ne_nil (by simpa using h)
  have hprefix : ¬ urlMarks ++ [.plain ':'] <+: v.toList.map Mark.literal := by
    simp [hv, urlMarks]
  have htag : tag? (v.toList.map Mark.literal) = none :=
    tag?_of_literal (by simp [hv, Mark.isLiteral])
  rw [ wordKinds_of_not_prefix hprefix, endKinds, htag, spelled_map_literal, String.ofList_toList]
  simp [h]

theorem wordKinds_marked (hc : c.Typable) : wordKinds c.marked = c.kinds := by
  cases c with
  | text v => exact wordKinds_literal hc
  | qualifier q v =>
    cases q
    have hurl : Qualifier.url.name.toList.map Mark.plain = urlMarks := rfl
    rw [marked, hurl, wordKinds_url, wordKinds_literal hc]
    rfl
  | tag name excluded =>
    have hname : name ≠ "" ∧ ∀ c ∈ name.toList, (Mark.plain c).isName = true := hc
    cases excluded <;> simp +contextual [marked, kinds, wordKinds, endKinds, tag?, hname]

end Condition

theorem conditionsOf_kinds (cs : List Condition) : conditionsOf (cs.flatMap Condition.kinds) = cs := by
  induction cs with
  | nil => rfl
  | cons c cs ih =>
    rw [List.flatMap_cons]
    cases c with
    | text v => simp [Condition.kinds, conditionsOf, ih]
    | qualifier q v => simp [Condition.kinds, conditionsOf, ih]
    | tag name excluded => cases excluded <;> simp [Condition.kinds, conditionsOf, ih]

theorem ofString_of_words {input : String} {q : Query}
    (h : (cut (marks false false input.toList)).flatMap wordKinds =
      q.conditions.flatMap Condition.kinds) : ofString input = .ok q := by
  have hrun := Scan.run_kinds (s := {}) Word.Spells.empty 0 input.toList
  rw [ofString_eq, wordTokens, hrun]
  simp only [List.nil_append, h, conditionsOf_kinds]

/-- The words of a query that is typed are its conditions. -/
theorem words_written {writing : String → String} (hwriting : IsLiteral writing)
    {cs : List Condition} (hcs : ∀ c ∈ cs, c.Typable) :
    (cut (marks false false (String.intercalate " " (cs.map (·.written writing))).toList)).flatMap
      wordKinds = cs.flatMap Condition.kinds := by
  have hspace : " ".toList = [' '] := rfl
  rw [String.toList_intercalate, hspace, List.map_map]
  induction cs with
  | nil => rfl
  | cons c cs ih =>
    have hmarks := fun rest => Condition.marks_written hwriting (hcs c (by simp)) rest
    have hkinds := Condition.wordKinds_marked (hcs c (by simp))
    have hword := c.not_separator_of_mem_marked
    cases cs with
    | nil =>
      have hlast : marks false false (c.written writing).toList = c.marked := by
        simpa [marks] using hmarks []
      simp [hlast, cut_of_word hword, hkinds]
    | cons d cs =>
      have hrest := ih fun x hx => hcs x (by simp [hx])
      have hwhite : ∀ rest, marks false false (' ' :: rest) = .separator :: marks false false rest :=
        fun _ => rfl
      simp only [List.map_cons, List.intercalate_cons_cons, List.append_assoc, Function.comp_apply,
        List.singleton_append] at hrest ⊢
      rw [hmarks, hwhite, cut_separator hword, List.flatMap_cons, hkinds, hrest]
      rfl

theorem ofString_written {writing : String → String} (hwriting : IsLiteral writing) {q : Query}
    (hq : q.Typable) : ofString (q.written writing) = .ok q :=
  ofString_of_words (words_written hwriting hq)

theorem typable_of_ofString {input : String} {q : Query} (h : ofString input = .ok q) :
    q.Typable := by
  rw [ofString_eq] at h
  cases h
  refine typable_conditionsOf fun k hk => ?_
  obtain ⟨t, ht, rfl⟩ := List.mem_map.mp hk
  exact typable_wordTokens input t ht

/-- The queries that can be typed are those whose values are not empty and whose tags are names. They
are read back from what is written with the values in quotes, and from what is written with all
characters of the values escaped. -/
theorem typable_iff (q : Query) :
    (q.Typable ↔ ∃ input, ofString input = .ok q) ∧
    (q.Typable ↔ ofString (q.written inQuotes) = .ok q) ∧
    (q.Typable ↔ ofString (q.written inEscapes) = .ok q) := by
  have hquotes := ofString_written (q := q) isLiteral_inQuotes
  have hescapes := ofString_written (q := q) isLiteral_inEscapes
  refine ⟨⟨fun hq => ⟨_, hquotes hq⟩, ?_⟩, ⟨hquotes, typable_of_ofString⟩,
    ⟨hescapes, typable_of_ofString⟩⟩
  rintro ⟨input, h⟩
  exact typable_of_ofString h

example : written inQuotes ⟨[.text "a \"b", .qualifier .url "c", .tag "d" true]⟩ =
    "\"a \\\"b\" url:\"c\" -#d" := by decide

end Query
end LinkShelf
