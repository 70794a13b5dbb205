import LinkShelf.Proofs.Outcome
import LinkShelf.Proofs.Query.Clauses

/-! Sentences: the token lists that have a query. They are told by the end of the query and by what
stands behind negations. The conditions of a sentence can be read off token by token, and they are a
derivation of it in the grammar, which uses every token once. -/
namespace LinkShelf
namespace Query

/-- The second of two neighbours that no query has: it stands behind the end, or it stands behind a
negation and is no tag. -/
def Clash (k t : Token) : Prop :=
  k.kind = .endOfQuery ∨ k.kind = .not ∧ ∀ v, t.kind ≠ .tag v

/-- How far a token list can be read: to its end, or to the first clash. -/
inductive Reading : List Token → Prop
  | ended {ts : List Token} (h : Clauses ts) (p : Nat) : Reading (ts ++ [⟨.endOfQuery, p⟩])
  | unended {ts : List Token} (h : Clauses ts) : Reading ts
  | dangling {ts : List Token} (h : Clauses ts) (i : Nat) : Reading (ts ++ [⟨.not, i⟩])
  | clash {ts : List Token} (h : Clauses ts) {k t : Token} (hkt : Clash k t) (rest : List Token) :
    Reading (ts ++ k :: t :: rest)

theorem Reading.append {front ts : List Token} (hfront : Clauses front) (h : Reading ts) :
    Reading (front ++ ts) := by
  cases h with
  | ended h p => simpa using Reading.ended (hfront.append h) p
  | unended h => exact .unended (hfront.append h)
  | dangling h i => simpa using Reading.dangling (hfront.append h) i
  | clash h hkt rest => simpa using Reading.clash (hfront.append h) hkt rest

theorem reading (ts : List Token) : Reading ts := by
  induction ts using readConditions.induct with
  | case1 => exact .unended .nil
  | case2 p => exact .ended .nil p
  | case3 p t rest => exact .clash .nil (.inl rfl) rest
  | case4 v i ts ih => exact ih.append (.text v i .nil)
  | case5 q i v j ts ih => exact ih.append (.qualifier q i (.text v j .nil))
  | case6 q i ts _ ih => exact ih.append (.qualifier q i .nil)
  | case7 v i ts ih => exact ih.append (.tag v i .nil)
  | case8 i v j ts ih => exact ih.append (.notTag v i j .nil)
  | case9 i t rest htag =>
    refine .clash .nil (.inr ⟨rfl, fun v hv => htag v t.position ?_⟩) rest
    rw [← hv]
  | case10 i => exact .dangling .nil i

theorem parse_of_readConditions {ts : List Token} {t : Token} (h : ts.getLast? = some t) :
    parse ts = (readConditions t.position ts).map Query.mk := by
  rw [parse, h]

namespace Clauses

variable {ts : List Token}

theorem parse_ended (h : Clauses ts) (p : Nat) :
    parse (ts ++ [⟨.endOfQuery, p⟩]) = .ok ⟨conditionsOf (ts.map Token.kind)⟩ := by
  rw [parse_of_readConditions List.getLast?_concat, h.readConditions_eq]
  rfl

theorem parse_unended (h : Clauses ts) {t : Token} (ht : ts.getLast? = some t) :
    parse ts = .error (.unexpectedEnd t.position) := by
  have hread : readConditions t.position (ts ++ []) = .error (.unexpectedEnd t.position) :=
    h.readConditions_append (by simp) t.position
  rw [List.append_nil] at hread
  rw [parse_of_readConditions ht, hread]
  rfl

theorem parse_dangling (h : Clauses ts) (i : Nat) :
    parse (ts ++ [⟨.not, i⟩]) = .error (.unexpectedEnd i) := by
  rw [parse_of_readConditions List.getLast?_concat, h.readConditions_append (by simp)]
  rfl

theorem parse_clash (h : Clauses ts) {k t : Token} (hkt : Clash k t) (rest : List Token) :
    parse (ts ++ k :: t :: rest) = .error (.unexpectedToken t) := by
  obtain ⟨last, hlast⟩ : ∃ last, (ts ++ k :: t :: rest).getLast? = some last :=
    Option.isSome_iff_exists.mp (by simp)
  have hread : readConditions last.position (k :: t :: rest) = .error (.unexpectedToken t) := by
    obtain ⟨kind, i⟩ := k
    rcases hkt with hend | ⟨hnot, htag⟩
    · obtain rfl : kind = .endOfQuery := hend
      rfl
    · obtain rfl : kind = .not := hnot
      rw [readConditions]
      rintro v j rfl
      exact htag v rfl
  have hstop : ∀ v i more, k :: t :: rest ≠ ⟨.text v, i⟩ :: more := by
    rintro v i more heq
    obtain ⟨rfl, -⟩ := List.cons.inj heq
    rcases hkt with hend | ⟨hnot, -⟩
    · cases hend
    · cases hnot
  rw [parse_of_readConditions hlast, h.readConditions_append hstop, hread]
  rfl

end Clauses

/-- The end of the query is the last token and no other one, and each negation has a tag right behind
it. -/
structure IsSentence (ks : List TokenKind) : Prop where
  last : ks.getLast? = some .endOfQuery
  once : ks.count .endOfQuery = 1
  negated : ∀ i, ks[i]? = some .not → ∃ v, ks[i + 1]? = some (.tag v)

theorem Clauses.count_endOfQuery {ts : List Token} (h : Clauses ts) :
    (ts.map Token.kind).count .endOfQuery = 0 := by
  induction h with
  | nil => rfl
  | text v i _ ih => simpa using ih
  | qualifier q i _ ih => simpa using ih
  | tag v i _ ih => simpa using ih
  | notTag v i j _ ih => simpa using ih

theorem Clauses.tag_behind_not {ts : List Token} (h : Clauses ts) {i : Nat}
    (hi : (ts.map Token.kind ++ [.endOfQuery])[i]? = some .not) :
    ∃ v, (ts.map Token.kind ++ [.endOfQuery])[i + 1]? = some (.tag v) := by
  induction h generalizing i with
  | nil => cases i <;> simp at hi
  | text | qualifier | tag =>
    rename_i ih
    cases i with
    | zero => simp at hi
    | succ i => exact ih hi
  | notTag v _ _ _ ih =>
    match i with
    | 0 => exact ⟨v, rfl⟩
    | 1 => simp at hi
    | i + 2 => exact ih hi

theorem isSentence_iff {ts : List Token} :
    IsSentence (ts.map Token.kind) ↔ ∃ init p, Clauses init ∧ ts = init ++ [⟨.endOfQuery, p⟩] := by
  constructor
  · rintro ⟨hlast, honce, hnegated⟩
    cases reading ts with
    | ended h p => exact ⟨_, p, h, rfl⟩
    | unended h =>
      rw [h.count_endOfQuery] at honce
      cases honce
    | dangling h i => simp at hlast
    | @clash init h k t hkt rest =>
      rcases hkt with hend | ⟨hnot, htag⟩
      · -- the last token would be a second end
        have hmem : TokenKind.endOfQuery ∈ (t :: rest).map Token.kind := by
          have htail : ((t :: rest).map Token.kind).getLast? = some .endOfQuery := by
            simpa [List.getLast?_append, List.getLast?_cons_cons] using hlast
          exact List.mem_of_getLast? htail
        have htwo := List.count_pos_iff.mpr hmem
        simp only [List.map_append, List.map_cons, List.count_append, hend, List.count_cons_self]
          at honce htwo
        omega
      · obtain ⟨v, hv⟩ := hnegated init.length (by simp [hnot])
        exact absurd (by simpa using hv) (htag v)
  · rintro ⟨init, p, h, rfl⟩
    refine ⟨by simp, ?_, fun i hi => ?_⟩
    · simp [h.count_endOfQuery]
    · rw [List.map_append] at hi ⊢
      exact h.tag_behind_not hi

/-- A criterion of the grammar and its condition. -/
inductive Criterion : List TokenKind → Condition → Prop
  | text (v : String) : Criterion [.text v] (.text v)
  | qualified (q : Qualifier) (v : String) : Criterion [.qualifier q, .text v] (.qualifier q v)
  | bare (q : Qualifier) : Criterion [.qualifier q] (.text q.name)
  | tag (v : String) : Criterion [.tag v] (.tag v false)
  | notTag (v : String) : Criterion [.not, .tag v] (.tag v true)

/-- A query of the grammar: criteria one behind the other, and the end. -/
inductive Derives : List TokenKind → List Condition → Prop
  | endOfQuery : Derives [.endOfQuery] []
  | criterion {front ks : List TokenKind} {c : Condition} {cs : List Condition}
    (hc : Criterion front c) (hcs : Derives ks cs) : Derives (front ++ ks) (c :: cs)

theorem derives_of_readConditions {last : Nat} {ts : List Token} {cs : List Condition}
    (h : readConditions last ts = .ok cs) : Derives (ts.map Token.kind) cs := by
  fun_induction readConditions last ts generalizing cs with
  | case1 => cases h
  | case2 p =>
    cases h
    exact .endOfQuery
  | case3 p t rest => cases h
  | case4 v i ts ih =>
    obtain ⟨ds, hds, rfl⟩ := Outcome.map_eq_ok.mp h
    exact .criterion (.text v) (ih hds)
  | case5 q i v j ts ih =>
    obtain ⟨ds, hds, rfl⟩ := Outcome.map_eq_ok.mp h
    exact .criterion (.qualified q v) (ih hds)
  | case6 q i ts _ ih =>
    obtain ⟨ds, hds, rfl⟩ := Outcome.map_eq_ok.mp h
    exact .criterion (.bare q) (ih hds)
  | case7 v i ts ih =>
    obtain ⟨ds, hds, rfl⟩ := Outcome.map_eq_ok.mp h
    exact .criterion (.tag v) (ih hds)
  | case8 i v j ts ih =>
    obtain ⟨ds, hds, rfl⟩ := Outcome.map_eq_ok.mp h
    exact .criterion (.notTag v) (ih hds)
  | case9 i t rest _ => cases h
  | case10 i => cases h

/-- A token list has a query exactly if it is clauses with an end behind them. -/
theorem parse_eq_ok_iff {ts : List Token} {q : Query} :
    parse ts = .ok q ↔ ∃ init p, Clauses init ∧ ts = init ++ [⟨.endOfQuery, p⟩] ∧
      q.conditions = conditionsOf (init.map Token.kind) := by
  constructor
  · intro hok
    cases reading ts with
    | ended h p =>
      rw [h.parse_ended] at hok
      cases hok
      exact ⟨_, p, h, rfl, rfl⟩
    | unended h =>
      cases hlast : ts.getLast? with
      | none =>
        rw [parse, hlast] at hok
        cases hok
      | some t =>
        rw [h.parse_unended hlast] at hok
        cases hok
    | dangling h i =>
      rw [h.parse_dangling] at hok
      cases hok
    | clash h hkt rest =>
      rw [h.parse_clash hkt] at hok
      cases hok
  · rintro ⟨init, p, h, rfl, hconditions⟩
    rw [h.parse_ended, ← hconditions]

theorem derives_of_parse {ts : List Token} {q : Query} (h : parse ts = .ok q) :
    Derives (ts.map Token.kind) q.conditions := by
  obtain ⟨init, p, hinit, rfl, hconditions⟩ := parse_eq_ok_iff.mp h
  rw [hconditions]
  exact derives_of_readConditions (hinit.readConditions_eq 0 p)

theorem Clauses.conditionsOf_ended {ts : List Token} (h : Clauses ts) (p : Nat) :
    conditionsOf ((ts ++ [(⟨.endOfQuery, p⟩ : Token)]).map Token.kind) =
      conditionsOf (ts.map Token.kind) := by
  rw [List.map_append, h.conditionsOf_append (by simp)]
  exact List.append_nil _

/-- The kinds of the tokens decide, by themselves and their neighbours, whether there is a query and
which one. -/
theorem parse_eq_ok_iff_kinds {ts : List Token} {q : Query} :
    parse ts = .ok q ↔ IsSentence (ts.map Token.kind) ∧
      q.conditions = conditionsBehind none (ts.map Token.kind) := by
  rw [parse_eq_ok_iff, isSentence_iff, conditionsBehind_eq (by simp) (by simp)]
  constructor
  · rintro ⟨init, p, h, rfl, hq⟩
    exact ⟨⟨init, p, h, rfl⟩, by rw [hq, h.conditionsOf_ended]⟩
  · rintro ⟨⟨init, p, h, rfl⟩, hq⟩
    exact ⟨init, p, h, rfl, by rw [hq, h.conditionsOf_ended]⟩

def placed (place : Nat → Nat) (ts : List Token) : List Token :=
  ts.mapIdx fun i t => { t with position := place i }

theorem kinds_placed (place : Nat → Nat) (ts : List Token) :
    (placed place ts).map Token.kind = ts.map Token.kind := by
  refine List.ext_getElem? fun i => ?_
  simp only [placed, List.getElem?_map, List.getElem?_mapIdx, Option.map_map]
  rfl

/-- A token list has a query exactly if it is a sentence. The conditions are then what its tokens
stand for, in their order, and they come from a derivation of all its tokens. Where the tokens stand
makes no difference. -/
theorem parse_isSentence (ts : List Token) :
    ((∃ q, parse ts = .ok q) ↔ IsSentence (ts.map Token.kind)) ∧
    (∀ q, parse ts = .ok q ↔ IsSentence (ts.map Token.kind) ∧
      q.conditions = conditionsBehind none (ts.map Token.kind) ∧
      Derives (ts.map Token.kind) q.conditions) ∧
    ∀ place q, parse (placed place ts) = .ok q ↔ parse ts = .ok q := by
  refine ⟨⟨?_, ?_⟩, fun q => ⟨?_, ?_⟩, ?_⟩
  · rintro ⟨q, hq⟩
    exact (parse_eq_ok_iff_kinds.mp hq).1
  · intro hsentence
    exact ⟨⟨_⟩, parse_eq_ok_iff_kinds.mpr ⟨hsentence, rfl⟩⟩
  · intro hq
    obtain ⟨hsentence, hconditions⟩ := parse_eq_ok_iff_kinds.mp hq
    exact ⟨hsentence, hconditions, derives_of_parse hq⟩
  · rintro ⟨hsentence, hconditions, -⟩
    exact parse_eq_ok_iff_kinds.mpr ⟨hsentence, hconditions⟩
  · intro place q
    rw [parse_eq_ok_iff_kinds, parse_eq_ok_iff_kinds, kinds_placed]

example : conditionsBehind none
    [.qualifier .url, .qualifier .url, .text "a", .text "b", .not, .tag "c", .endOfQuery] =
    [.text "url", .qualifier .url "a", .text "b", .tag "c" true] := by decide

end Query
end LinkShelf
