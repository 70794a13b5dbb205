import LinkShelf.Proofs.Query.Sentence

/-! Refused token lists. The error names the last token of the shortest beginning of the list that no
query begins with. If there is no such beginning, the list breaks off, and the error names the place
of its last token. -/
namespace LinkShelf
namespace Query

/-- Some query has a token list that begins with these tokens. -/
def Viable (ts : List Token) : Prop := ∃ more q, parse (ts ++ more) = .ok q

/-- The token is the last one of the shortest beginning of the list that is not viable. -/
def Offends (ts : List Token) (t : Token) : Prop :=
  ∃ n, ts[n]? = some t ∧ ¬ Viable (ts.take (n + 1)) ∧ ∀ m ≤ n, Viable (ts.take m)

variable {ts front : List Token} {t u : Token}

theorem Viable.of_isPrefix (h : Viable ts) (hfront : front <+: ts) : Viable front := by
  obtain ⟨rest, rfl⟩ := hfront
  obtain ⟨more, q, hq⟩ := h
  exact ⟨rest ++ more, q, by rwa [← List.append_assoc]⟩

theorem viable_of_parse {q : Query} (h : parse ts = .ok q) : Viable ts :=
  ⟨[], q, by rwa [List.append_nil]⟩

namespace Clauses

theorem viable (h : Clauses ts) : Viable ts := ⟨_, _, h.parse_ended 0⟩

theorem viable_ended (h : Clauses ts) (p : Nat) : Viable (ts ++ [⟨.endOfQuery, p⟩]) :=
  viable_of_parse (h.parse_ended p)

theorem viable_dangling (h : Clauses ts) (i : Nat) : Viable (ts ++ [⟨.not, i⟩]) := by
  have htag : Clauses (ts ++ [⟨.not, i⟩, ⟨.tag "", 0⟩]) := h.append (.notTag "" i 0 .nil)
  refine htag.viable.of_isPrefix ⟨[⟨.tag "", 0⟩], ?_⟩
  rw [List.append_assoc]
  rfl

theorem viable_clash (h : Clauses ts) (htu : Clash t u) : Viable (ts ++ [t]) := by
  obtain ⟨kind, i⟩ := t
  rcases htu with hend | ⟨hnot, -⟩
  · obtain rfl : kind = .endOfQuery := hend
    exact h.viable_ended i
  · obtain rfl : kind = .not := hnot
    exact h.viable_dangling i

theorem not_viable_clash (h : Clauses ts) (htu : Clash t u) : ¬ Viable (ts ++ [t, u]) := by
  rintro ⟨more, q, hq⟩
  rw [List.append_assoc, List.cons_append, List.cons_append, h.parse_clash htu] at hq
  cases hq

theorem offends_clash (h : Clauses ts) (htu : Clash t u) (rest : List Token) :
    Offends (ts ++ t :: u :: rest) u := by
  have hone : (ts ++ t :: u :: rest).take (ts.length + 1) = ts ++ [t] :=
    List.take_length_add_append 1
  have htwo : (ts ++ t :: u :: rest).take (ts.length + 1 + 1) = ts ++ [t, u] :=
    List.take_length_add_append 2
  refine ⟨ts.length + 1, by simp, ?_, fun m hm => ?_⟩
  · rw [htwo]
    exact h.not_viable_clash htu
  · refine (h.viable_clash htu).of_isPrefix ?_
    rw [← hone]
    exact List.take_prefix_take_left hm

end Clauses

namespace Offends

theorem not_viable (h : Offends ts t) : ¬ Viable ts := by
  obtain ⟨n, -, hnot, -⟩ := h
  exact fun hts => hnot (hts.of_isPrefix (List.take_prefix _ _))

theorem unique (h : Offends ts t) (h' : Offends ts u) : t = u := by
  obtain ⟨n, hn, hnot, hall⟩ := h
  obtain ⟨m, hm, hnot', hall'⟩ := h'
  rcases Nat.lt_trichotomy n m with hlt | rfl | hlt
  · exact absurd (hall' (n + 1) hlt) hnot
  · exact Option.some.inj (hn.symm.trans hm)
  · exact absurd (hall (m + 1) hlt) hnot'

end Offends

/-- What a token list comes to: it is read, it holds no token, it breaks off, or a token offends. -/
inductive Outcome (ts : List Token) : Except ParseError Query → Prop
  | query {q : Query} (h : Viable ts) : Outcome ts (.ok q)
  | empty (h : ts = []) : Outcome ts (.error .emptyTokenList)
  | breaksOff {t : Token} (h : Viable ts) (ht : ts.getLast? = some t) :
    Outcome ts (.error (.unexpectedEnd t.position))
  | offends {t : Token} (h : Offends ts t) : Outcome ts (.error (.unexpectedToken t))

theorem outcome_parse (ts : List Token) : Outcome ts (parse ts) := by
  cases reading ts with
  | ended h p =>
    rw [h.parse_ended]
    exact .query (h.viable_ended p)
  | unended h =>
    cases hlast : ts.getLast? with
    | none =>
      obtain rfl := List.getLast?_eq_none_iff.mp hlast
      exact .empty rfl
    | some t =>
      rw [h.parse_unended hlast]
      exact .breaksOff h.viable hlast
  | dangling h i =>
    rw [h.parse_dangling]
    exact .breaksOff (h.viable_dangling i) List.getLast?_concat
  | clash h htu rest =>
    rw [h.parse_clash htu]
    exact .offends (h.offends_clash htu rest)

theorem viable_nil : Viable [] := Clauses.nil.viable

theorem parse_of_offends (h : Offends ts t) : parse ts = .error (.unexpectedToken t) := by
  have houtcome := outcome_parse ts
  generalize parse ts = result at houtcome
  cases houtcome with
  | query hts => exact absurd hts h.not_viable
  | empty hnil => exact absurd (hnil ▸ viable_nil) h.not_viable
  | breaksOff hts _ => exact absurd hts h.not_viable
  | offends h' => rw [h.unique h']

/-- Every list that no query begins with has a token that offends. -/
theorem viable_or_offends (ts : List Token) : Viable ts ∨ ∃ t, Offends ts t := by
  have houtcome := outcome_parse ts
  generalize parse ts = result at houtcome
  cases houtcome with
  | query hts => exact .inl hts
  | empty hnil => exact .inl (hnil ▸ viable_nil)
  | breaksOff hts _ => exact .inl hts
  | offends h => exact .inr ⟨_, h⟩

theorem exists_offends_iff : (∃ t, Offends ts t) ↔ ∃ n, ¬ Viable (ts.take n) := by
  constructor
  · rintro ⟨t, n, -, hnot, -⟩
    exact ⟨n + 1, hnot⟩
  · rintro ⟨n, hnot⟩
    rcases viable_or_offends ts with hts | hoff
    · exact absurd (hts.of_isPrefix (List.take_prefix n ts)) hnot
    · exact hoff

theorem parse_eq_emptyTokenList_iff : parse ts = .error .emptyTokenList ↔ ts = [] := by
  constructor
  · intro h
    have houtcome := outcome_parse ts
    rw [h] at houtcome
    cases houtcome with
    | empty hnil => exact hnil
  · rintro rfl
    rfl

theorem parse_eq_unexpectedToken_iff :
    parse ts = .error (.unexpectedToken t) ↔ Offends ts t := by
  constructor
  · intro h
    have houtcome := outcome_parse ts
    rw [h] at houtcome
    cases houtcome with
    | offends hoff => exact hoff
  · exact parse_of_offends

theorem parse_eq_unexpectedEnd_iff {p : Nat} :
    parse ts = .error (.unexpectedEnd p) ↔
      Viable ts ∧ (∀ q, parse ts ≠ .ok q) ∧ ts.getLast?.map Token.position = some p := by
  have houtcome := outcome_parse ts
  constructor
  · intro h
    rw [h] at houtcome ⊢
    cases houtcome with
    | breaksOff hts hlast => exact ⟨hts, nofun, by rw [hlast]; rfl⟩
  · rintro ⟨hts, hrefused, hlast⟩
    generalize parse ts = result at houtcome hrefused
    cases houtcome with
    | query _ => exact absurd rfl (hrefused _)
    | empty hnil =>
      rw [hnil] at hlast
      cases hlast
    | breaksOff _ ht =>
      rw [ht] at hlast
      cases hlast
      rfl
    | offends hoff => exact absurd hts hoff.not_viable

/-- A token list is refused at the token that ends its shortest beginning with which no query begins.
If every beginning could become a query, but the list is none, it is refused at its end. Only the
list without tokens is refused as empty. -/
theorem parse_error_iff (ts : List Token) :
    (parse ts = .error .emptyTokenList ↔ ts = []) ∧
    (∀ t, parse ts = .error (.unexpectedToken t) ↔ Offends ts t) ∧
    (∀ p, parse ts = .error (.unexpectedEnd p) ↔
      Viable ts ∧ (∀ q, parse ts ≠ .ok q) ∧ ts.getLast?.map Token.position = some p) ∧
    ((∃ t, Offends ts t) ↔ ∃ n, ¬ Viable (ts.take n)) := by
  refine ⟨parse_eq_emptyTokenList_iff, ?_, ?_, exists_offends_iff⟩
  · intro t
    exact parse_eq_unexpectedToken_iff
  · intro p
    exact parse_eq_unexpectedEnd_iff

end Query
end LinkShelf
