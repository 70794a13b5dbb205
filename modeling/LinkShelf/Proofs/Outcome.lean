/-! When a computation of several steps succeeds: each of its steps does. On a state it goes on from
where its first step ends. -/
namespace LinkShelf
namespace Outcome

variable {ε ε' α β : Type} {x : Except ε α}

theorem bind_eq_ok {f : α → Except ε β} {b : β} :
    (x >>= f) = .ok b ↔ ∃ a, x = .ok a ∧ f a = .ok b := by
  cases x with
  | error e => simp [bind, Except.bind]
  | ok a => simp [bind, Except.bind]

theorem map_eq_ok {f : α → β} {b : β} : x.map f = .ok b ↔ ∃ a, x = .ok a ∧ f a = b := by
  cases x with
  | error e => simp [Except.map]
  | ok a => simp [Except.map]

theorem mapError_eq_ok {f : ε → ε'} {a : α} : x.mapError f = .ok a ↔ x = .ok a := by
  cases x with
  | error e =>
    constructor <;> intro h <;> cases h
  | ok b =>
    constructor <;> intro h <;> cases h <;> rfl

theorem ite_eq_ok {p : Prop} [Decidable p] {e : ε} {a : α} :
    (if p then x else .error e) = .ok a ↔ p ∧ x = .ok a := by
  by_cases hp : p
  · simp [hp]
  · simp [hp]

end Outcome

theorem run_bind {σ α β : Type} {x : StateM σ α} {d e : σ} {a : α} (h : x.run d = (a, e))
    (f : α → StateM σ β) : (x >>= f).run d = (f a).run e := by
  rw [StateT.run_bind, h]
  rfl

end LinkShelf
