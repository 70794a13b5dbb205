import LinkShelf.Query.Grammar
import LinkShelf.Proofs.Query.Steps

/-! Whole clauses: what the scan emits and what the grammar reads. The scan never leaves a negation
without its tag, so the tokens of a search string are whole clauses and one end. Such a list can
always be read, and the kinds of its tokens alone decide which conditions it has: each token for
itself, between its neighbours. -/
namespace LinkShelf
namespace Query

/-- Token lists in which every negation stands in front of its tag, without an end. -/
inductive Clauses : List Token → Prop
  | nil : Clauses []
  | text (v : String) (i : Nat) {ts : List Token} : Clauses ts → Clauses (⟨.text v, i⟩ :: ts)
  | qualifier (q : Qualifier) (i : Nat) {ts : List Token} :
    Clauses ts → Clauses (⟨.qualifier q, i⟩ :: ts)
  | tag (v : String) (i : Nat) {ts : List Token} : Clauses ts → Clauses (⟨.tag v, i⟩ :: ts)
  | notTag (v : String) (i j : Nat) {ts : List Token} :
    Clauses ts → Clauses (⟨.not, i⟩ :: ⟨.tag v, j⟩ :: ts)

theorem Clauses.append {as bs : List Token} (ha : Clauses as) (hb : Clauses bs) :
    Clauses (as ++ bs) := by
  induction ha with
  | nil => exact hb
  | text v i _ ih => exact .text v i ih
  | qualifier q i _ ih => exact .qualifier q i ih
  | tag v i _ ih => exact .tag v i ih
  | notTag v i j _ ih => exact .notTag v i j ih

theorem Word.Gives.clauses {w : Word} {ts : List Token} (h : w.Gives ts) : Clauses ts := by
  cases h with
  | nothing => exact .nil
  | negated => exact .notTag _ _ _ .nil
  | tag => exact .tag _ _ .nil
  | text => exact .text _ _ .nil

namespace Scan

theorem Reads.clauses {s next : Scan} {i : Nat} {c : Char} {out : List Token}
    (h : Reads i c s out next) : Clauses out := by
  cases h with
  | qualifier w q => exact .qualifier q _ .nil
  | white w => exact w.gives_tokens.clauses
  | _ => exact .nil

theorem clauses_run (s : Scan) (i : Nat) (cs : List Char) : Clauses (s.run i cs).1 := by
  induction cs generalizing s i with
  | nil => exact .nil
  | cons c cs ih => exact (s.reads_step i c).clauses.append (ih (s.step i c).2 (i + 1))

end Scan

/-- The conditions of whole clauses. A qualifier takes the text behind it. -/
def conditionsOf : List TokenKind → List Condition
  | [] => []
  | .qualifier q :: .text v :: ks => .qualifier q v :: conditionsOf ks
  | .qualifier q :: ks => .text q.name :: conditionsOf ks
  | .text v :: ks => .text v :: conditionsOf ks
  | .not :: .tag name :: ks => .tag name true :: conditionsOf ks
  | .tag name :: ks => .tag name false :: conditionsOf ks
  | _ :: ks => conditionsOf ks

theorem conditionsOf_qualifier {ks : List TokenKind} (h : ∀ v, ks.head? ≠ some (.text v))
    (q : Qualifier) : conditionsOf (.qualifier q :: ks) = .text q.name :: conditionsOf ks := by
  cases ks with
  | nil => rfl
  | cons k ks =>
    cases k with
    | text v => exact absurd rfl (h v)
    | qualifier | tag | not | endOfQuery => rfl

/-- What a token stands for between its neighbours: a qualifier takes the text behind it, and a
negation the tag. -/
def TokenKind.condition? (before behind : Option TokenKind) : TokenKind → Option Condition
  | text v => match before with
    | some (qualifier _) => none
    | _ => some (.text v)
  | qualifier q => match behind with
    | some (text v) => some (.qualifier q v)
    | _ => some (.text q.name)
  | tag v => some (.tag v (before = some not))
  | not => none
  | endOfQuery => none

def conditionsBehind (before : Option TokenKind) : List TokenKind → List Condition
  | [] => []
  | k :: ks => (k.condition? before ks.head?).toList ++ conditionsBehind (some k) ks

/-- Behind a token that takes neither a text nor a tag, the tokens stand for what the clauses say. -/
theorem conditionsBehind_eq {before : Option TokenKind} {ks : List TokenKind}
    (htext : ∀ q v, before = some (.qualifier q) → ks.head? ≠ some (.text v))
    (htag : ∀ v, before = some .not → ks.head? ≠ some (.tag v)) :
    conditionsBehind before ks = conditionsOf ks := by
  fun_induction conditionsOf ks generalizing before with
  | case1 => rfl
  | case2 q v ks ih =>
    simp [conditionsBehind, TokenKind.condition?, ih]
  | case3 q ks hks ih =>
    have hhead : ∀ v, ks.head? ≠ some (.text v) := by
      intro v hv
      obtain ⟨rest, rfl⟩ := List.head?_eq_some_iff.mp hv
      exact hks v rest rfl
    have hbare : (TokenKind.qualifier q).condition? before ks.head? = some (.text q.name) := by
      simp [TokenKind.condition?]
    rw [conditionsBehind, hbare, ih (fun _ v _ => hhead v) (by simp)]
    rfl
  | case4 v ks ih =>
    have hfree : (TokenKind.text v).condition? before ks.head? = some (.text v) := by
      have hnone : ∀ q, before ≠ some (.qualifier q) := fun q h => htext q v h rfl
      simp [TokenKind.condition?]
    rw [conditionsBehind, hfree, ih (by simp) (by simp)]
    rfl
  | case5 name ks ih =>
    simp [conditionsBehind, TokenKind.condition?, ih]
  | case6 name ks ih =>
    have hplain : before ≠ some .not := fun h => htag name h rfl
    simp [conditionsBehind, TokenKind.condition?, ih, hplain]
  | case7 k ks _ hq hktext hks hktag ih =>
    have hhead : ∀ v, k = .not → ks.head? ≠ some (.tag v) := by
      intro v hk hv
      obtain ⟨rest, rfl⟩ := List.head?_eq_some_iff.mp hv
      exact hks v rest hk rfl
    have hnone : k.condition? before ks.head? = none := by
      cases k with
      | text v => exact absurd rfl (hktext v)
      | qualifier q => exact absurd rfl (hq q)
      | tag v => exact absurd rfl (hktag v)
      | not | endOfQuery => rfl
    rw [conditionsBehind, hnone, ih (fun q _ h => absurd (Option.some.inj h) (hq q))
      (fun v h => hhead v (Option.some.inj h))]
    rfl

/-- Clauses are read one after the other, if no qualifier at the end takes a text that follows. -/
theorem Clauses.conditionsOf_append {ts : List Token} (h : Clauses ts) {ks : List TokenKind}
    (hseam : ∀ q i v, ts.getLast? = some ⟨.qualifier q, i⟩ → ks.head? ≠ some (.text v)) :
    conditionsOf (ts.map Token.kind ++ ks) =
      conditionsOf (ts.map Token.kind) ++ conditionsOf ks := by
  have htail : ∀ {t : Token} {ts : List Token},
      (∀ q i v, (t :: ts).getLast? = some ⟨.qualifier q, i⟩ → ks.head? ≠ some (.text v)) →
      ∀ q i v, ts.getLast? = some ⟨.qualifier q, i⟩ → ks.head? ≠ some (.text v) := by
    intro t ts hseam q i v hlast
    exact hseam q i v (by simp [List.getLast?_cons, hlast])
  induction h with
  | nil => rfl
  | text v i _ ih => simpa [conditionsOf] using ih (htail hseam)
  | tag v i _ ih => simpa [conditionsOf] using ih (htail hseam)
  | notTag v i j _ ih => simpa [conditionsOf] using ih (htail (htail hseam))
  | qualifier q i hrest ih =>
    have hjoined := ih (htail hseam)
    cases hrest with
    | nil => exact conditionsOf_qualifier (fun v => hseam q i v rfl) q
    | text v j _ => simpa [conditionsOf] using hjoined
    | qualifier | tag | notTag =>
      rw [List.map_cons, List.cons_append, conditionsOf_qualifier (by simp), hjoined,
        conditionsOf_qualifier (by simp), List.cons_append]

theorem Clauses.of_concat_qualifier {ts : List Token} {q : Qualifier} {i : Nat}
    (h : Clauses (ts ++ [⟨.qualifier q, i⟩])) : Clauses ts := by
  generalize hus : ts ++ [⟨.qualifier q, i⟩] = us at h
  induction h generalizing ts with
  | nil => simp at hus
  | text v j _ ih =>
    cases ts with
    | nil => simp at hus
    | cons t ts =>
      obtain ⟨rfl, hrest⟩ := List.cons.inj hus
      exact .text v j (ih hrest)
  | qualifier p j _ ih =>
    cases ts with
    | nil => exact .nil
    | cons t ts =>
      obtain ⟨rfl, hrest⟩ := List.cons.inj hus
      exact .qualifier p j (ih hrest)
  | tag v j _ ih =>
    cases ts with
    | nil => simp at hus
    | cons t ts =>
      obtain ⟨rfl, hrest⟩ := List.cons.inj hus
      exact .tag v j (ih hrest)
  | notTag v j k _ ih =>
    match ts with
    | [] => simp at hus
    | [t] => simp at hus
    | t :: u :: ts =>
      obtain ⟨rfl, hbehind⟩ := List.cons.inj hus
      obtain ⟨rfl, hrest⟩ := List.cons.inj hbehind
      exact .notTag v j k (ih hrest)

/-- A qualifier at the end of clauses is a text, unless a text follows that it takes. -/
theorem Clauses.conditionsOf_concat_qualifier {ts : List Token} {q : Qualifier} {i : Nat}
    (h : Clauses (ts ++ [⟨.qualifier q, i⟩])) (v : String) (ks : List TokenKind) :
    conditionsOf ((ts ++ [(⟨.qualifier q, i⟩ : Token)]).map Token.kind) =
        conditionsOf (ts.map Token.kind) ++ [.text q.name] ∧
      conditionsOf ((ts ++ [(⟨.qualifier q, i⟩ : Token)]).map Token.kind ++ .text v :: ks) =
        conditionsOf (ts.map Token.kind) ++ .qualifier q v :: conditionsOf ks := by
  have hts := h.of_concat_qualifier
  constructor
  · rw [List.map_append, hts.conditionsOf_append (by simp)]
    rfl
  · rw [List.map_append, List.append_assoc, hts.conditionsOf_append (by simp)]
    rfl

theorem map_cons_inj {r s : Except ParseError (List Condition)} {c : Condition}
    (h : r.map (c :: ·) = s.map (c :: ·)) : r = s := by
  cases r <;> cases s <;> simp_all [Except.map]

/-- Reading goes through whole clauses to what stands behind them, and that alone decides whether the
list is read. It begins with no text, which a qualifier at the end of the clauses would take. -/
theorem Clauses.readConditions_append {ts : List Token} (h : Clauses ts) {stop : List Token}
    (hstop : ∀ v i rest, stop ≠ ⟨.text v, i⟩ :: rest) (last : Nat) :
    readConditions last (ts ++ stop) =
      (readConditions last stop).map (conditionsOf (ts.map Token.kind) ++ ·) := by
  have hcons : ∀ (c : Condition) (cs : List Condition),
      (readConditions last stop).map ((c :: cs) ++ ·) =
        ((readConditions last stop).map (cs ++ ·)).map (c :: ·) := by
    intro c cs
    cases readConditions last stop <;> rfl
  induction h with
  | nil => cases hread : readConditions last stop <;> simp [hread, Except.map, conditionsOf]
  | text v i _ ih =>
    rw [List.cons_append, readConditions, ih, ← hcons]
    rfl
  | tag v i _ ih =>
    rw [List.cons_append, readConditions, ih, ← hcons]
    rfl
  | notTag v i j _ ih =>
    rw [List.cons_append, List.cons_append, readConditions, ih, ← hcons]
    rfl
  | qualifier q i hrest ih =>
    cases hrest with
    | nil =>
      rw [List.cons_append, List.nil_append, readConditions]
      · rfl
      · exact hstop
    | text v j _ =>
      -- the text is read with the qualifier, so what was read of it on its own is taken back
      rw [List.cons_append, readConditions, List.map_cons, conditionsOf, hcons] at ih
      rw [List.cons_append, List.cons_append, readConditions, map_cons_inj ih, ← hcons]
      rfl
    | qualifier | tag | notTag =>
      simp only [List.cons_append] at ih ⊢
      rw [readConditions, ih, ← hcons]
      · rfl
      · simp

theorem Clauses.readConditions_eq {ts : List Token} (h : Clauses ts) (last p : Nat) :
    readConditions last (ts ++ [⟨.endOfQuery, p⟩]) = .ok (conditionsOf (ts.map Token.kind)) := by
  rw [h.readConditions_append (by simp)]
  simp [readConditions, Except.map]

def wordTokens (input : String) : List Token :=
  (Scan.run {} 0 input.toList).1 ++ (Scan.run {} 0 input.toList).2.word.tokens

theorem tokenize_eq (input : String) :
    tokenize input = wordTokens input ++ [⟨.endOfQuery, input.length + 1⟩] := rfl

theorem clauses_wordTokens (input : String) : Clauses (wordTokens input) :=
  (Scan.clauses_run {} 0 input.toList).append (Word.gives_tokens _).clauses

theorem ofString_eq (input : String) :
    ofString input = .ok ⟨conditionsOf ((wordTokens input).map Token.kind)⟩ := by
  rw [ofString, tokenize_eq, parse, List.getLast?_concat]
  simp only [(clauses_wordTokens input).readConditions_eq]
  rfl

/-- Every search string has a query. -/
theorem parse_tokenize (input : String) : ∃ q, parse (tokenize input) = .ok q :=
  ⟨_, ofString_eq input⟩

end Query
end LinkShelf
