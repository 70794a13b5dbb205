import LinkShelf.Proofs.Text.Lowercase

/-! Lowercase of a text that stands in another one. It is the lowercase of the text alone, but for a
capital sigma with no letter behind it or none in front of it: what is around the text decides which
sigma it becomes. -/
namespace LinkShelf
namespace Text

/-- Whether a capital sigma becomes the final one. What is in front of it is given in reverse. -/
def isFinal (before after : List Char) : Bool := casedNext before && !casedNext after

/-- Lowercase of one character between two texts, the first of them in reverse. -/
def lowerAt (before : List Char) (c : Char) (after : List Char) : List Char :=
  if c = 'Σ' then [if isFinal before after then 'ς' else 'σ'] else lowerChar c

/-- Lowercase of what stands between two texts, the first of them in reverse. -/
def lowerBetween (before after : List Char) : List Char → List Char
  | [] => []
  | c :: cs => lowerAt before c (cs ++ after) ++ lowerBetween (c :: before) after cs

theorem lowerFrom_cons (before : List Char) (c : Char) (cs : List Char) :
    lowerFrom before (c :: cs) = lowerAt before c cs ++ lowerFrom (c :: before) cs := rfl

theorem lowerAt_sigma (before after : List Char) :
    lowerAt before 'Σ' after = [if isFinal before after then 'ς' else 'σ'] := rfl

theorem lowerAt_of_ne {c : Char} (h : c ≠ 'Σ') (before after : List Char) :
    lowerAt before c after = lowerChar c := by rw [lowerAt, if_neg h]

theorem lowerBetween_cons (before after : List Char) (c : Char) (cs : List Char) :
    lowerBetween before after (c :: cs) =
      lowerAt before c (cs ++ after) ++ lowerBetween (c :: before) after cs := rfl

theorem lowerFrom_append_between (before cs after : List Char) :
    lowerFrom before (cs ++ after) =
      lowerBetween before after cs ++ lowerFrom (cs.reverse ++ before) after := by
  induction cs generalizing before with
  | nil => rfl
  | cons c cs ih =>
    rw [List.cons_append, lowerFrom_cons, ih, lowerBetween, List.reverse_cons, List.append_assoc,
      List.append_assoc, List.singleton_append]

/-- The lowercase of a text has a part for each of its parts. -/
theorem lowerChars_append_append (a s b : List Char) :
    lowerChars (a ++ s ++ b) =
      lowerBetween [] (s ++ b) a ++ lowerBetween a.reverse b s ++
        lowerFrom (s.reverse ++ a.reverse) b := by
  rw [lowerChars, List.append_assoc, lowerFrom_append_between, lowerFrom_append_between,
    List.append_nil, List.append_assoc]

/-- Each capital sigma of the text becomes the same between the two others as it does alone. -/
def SigmasKept (a s b : List Char) : Prop :=
  ∀ x y, s = x ++ 'Σ' :: y → isFinal (x.reverse ++ a.reverse) (y ++ b) = isFinal x.reverse y

theorem sigmasKept_iff {a s b : List Char} :
    SigmasKept a s b ↔ ∀ i < s.length, s[i]? = some 'Σ' →
      isFinal ((s.take i).reverse ++ a.reverse) (s.drop (i + 1) ++ b) =
        isFinal (s.take i).reverse (s.drop (i + 1)) := by
  constructor
  · intro h i hi hsigma
    have hhere : s[i] = 'Σ' := (List.getElem?_eq_some_iff.mp hsigma).2
    refine h _ _ ?_
    rw [← hhere, List.getElem_cons_drop, List.take_append_drop]
  · rintro h x y rfl
    have hhere := h x.length (by simp) (by simp)
    simpa using hhere

instance (a s b : List Char) : Decidable (SigmasKept a s b) := decidable_of_iff _ sigmasKept_iff.symm

theorem lowerBetween_append {near before after cs : List Char}
    (h : ∀ x y, cs = x ++ 'Σ' :: y →
      isFinal (x.reverse ++ (near ++ before)) (y ++ after) = isFinal (x.reverse ++ near) y) :
    lowerBetween (near ++ before) after cs = lowerFrom near cs := by
  -- by induction on the text; what is left of it already stands in front, in `near`
  induction cs generalizing near with
  | nil => rfl
  | cons c cs ih =>
    have hrest : lowerBetween (c :: near ++ before) after cs = lowerFrom (c :: near) cs := by
      refine ih fun x y hxy => ?_
      have hmore := h (c :: x) y (by rw [hxy, List.cons_append])
      simpa only [List.reverse_cons, List.append_assoc, List.singleton_append, List.cons_append,
        List.nil_append] using hmore
    have hfirst : lowerAt (near ++ before) c (cs ++ after) = lowerAt near c cs := by
      by_cases hc : c = 'Σ'
      · subst hc
        have hsame : isFinal (near ++ before) (cs ++ after) = isFinal near cs := h [] cs rfl
        rw [lowerAt_sigma, lowerAt_sigma, hsame]
      · rw [lowerAt_of_ne hc, lowerAt_of_ne hc]
    rw [lowerBetween, lowerFrom_cons, hfirst]
    exact congrArg _ hrest

/-- The lowercase of a text occurs where the text does, if its sigmas are kept there. -/
theorem lowerChars_infix_of_kept {a s b : List Char} (h : SigmasKept a s b) :
    lowerChars s <:+: lowerChars (a ++ s ++ b) := by
  have hbetween : lowerBetween ([] ++ a.reverse) b s = lowerFrom [] s := by
    refine lowerBetween_append fun x y hxy => ?_
    rw [List.nil_append, List.append_nil]
    exact h x y hxy
  exact ⟨_, _, by rw [lowerChars_append_append]; exact congrArg (_ ++ · ++ _) hbetween.symm⟩

section Context

variable {cs ds : List Char}

theorem casedNext_of_ignorable (h : cs.all isIgnorable = true) : casedNext cs = false := by
  induction cs with
  | nil => rfl
  | cons c cs ih =>
    obtain ⟨hc, hcs⟩ : isIgnorable c = true ∧ cs.all isIgnorable = true := by simpa using h
    rw [casedNext_cons, if_pos hc, ih hcs]

theorem casedNext_append_eq (cs ds : List Char) :
    casedNext (cs ++ ds) = (casedNext cs || (cs.all isIgnorable && casedNext ds)) := by
  induction cs with
  | nil => simp
  | cons c cs ih =>
    rw [List.cons_append, casedNext_cons, casedNext_cons, ih, List.all_cons]
    by_cases hc : isIgnorable c = true <;> simp [hc]

theorem isIgnorable_sigma : isIgnorable 'Σ' = false := by decide

theorem isCased_sigma : isCased 'Σ' = true := by decide

theorem casedNext_append_sigma (cs ds : List Char) :
    casedNext (cs ++ 'Σ' :: ds) = casedNext (cs ++ ['Σ']) := by
  have hsigma : ∀ ds, casedNext ('Σ' :: ds) = true := fun ds => by
    rw [casedNext_cons, isIgnorable_sigma, isCased_sigma]
    rfl
  rw [casedNext_append_eq, casedNext_append_eq cs, hsigma, hsigma]

end Context

/-- A capital sigma of the text is open: there is a letter in front of it and nothing that counts
behind it, or nothing that counts in front of it and no letter behind it. -/
def HasOpenSigma (s : List Char) : Prop :=
  ∃ x y, s = x ++ 'Σ' :: y ∧
    (casedNext x.reverse = true ∧ y.all isIgnorable = true ∨
      x.all isIgnorable = true ∧ casedNext y = false)

theorem sigmasKept_of_not_open {s : List Char} (h : ¬ HasOpenSigma s) (a b : List Char) :
    SigmasKept a s b := by
  intro x y hxy
  have hend : ¬ (casedNext x.reverse = true ∧ y.all isIgnorable = true) := fun hopen =>
    h ⟨x, y, hxy, .inl hopen⟩
  have hfront : ¬ (x.all isIgnorable = true ∧ casedNext y = false) := fun hopen =>
    h ⟨x, y, hxy, .inr hopen⟩
  simp only [isFinal, casedNext_append_eq, List.all_reverse]
  cases hx : casedNext x.reverse with
  | true =>
    have hy : y.all isIgnorable = false := by simpa [hx] using hend
    simp [hy]
  | false =>
    cases hy : casedNext y with
    | true => simp
    | false =>
      have hx' : x.all isIgnorable = false := by simpa [hy] using hfront
      simp [hx']

theorem lowerBetween_of_ignorable {cs : List Char} (h : cs.all isIgnorable = true)
    (before after : List Char) : lowerBetween before after cs = cs.flatMap lowerChar := by
  induction cs generalizing before with
  | nil => rfl
  | cons c cs ih =>
    obtain ⟨hc, hcs⟩ : isIgnorable c = true ∧ cs.all isIgnorable = true := by simpa using h
    have hne : c ≠ 'Σ' := by
      rintro rfl
      rw [isIgnorable_sigma] at hc
      cases hc
    rw [lowerBetween, lowerAt_of_ne hne, ih hcs, List.flatMap_cons]

/-- A sigma parts a text: what is lowered on one side of it does not depend on the other side. -/
theorem lowerBetween_before_sigma (before after cs : List Char) :
    lowerBetween before ('Σ' :: after) cs = lowerBetween before ['Σ'] cs := by
  induction cs generalizing before with
  | nil => rfl
  | cons c cs ih =>
    rw [lowerBetween, lowerBetween, ih, lowerAt, lowerAt, isFinal, isFinal,
      casedNext_append_sigma cs after]

theorem lowerBetween_behind_sigma (near before after cs : List Char) :
    lowerBetween (near ++ 'Σ' :: before) after cs = lowerBetween (near ++ ['Σ']) after cs := by
  induction cs generalizing near with
  | nil => rfl
  | cons c cs ih =>
    have hrest := ih (c :: near)
    simp only [List.cons_append] at hrest
    rw [lowerBetween, lowerBetween, hrest, lowerAt, lowerAt, isFinal, isFinal,
      casedNext_append_sigma near before]

theorem lowerBetween_append_cons (before after x y : List Char) :
    lowerBetween before after (x ++ 'Σ' :: y) =
      lowerBetween before ['Σ'] x ++
        (if isFinal (x.reverse ++ before) (y ++ after) then 'ς' else 'σ') ::
          lowerBetween ['Σ'] after y := by
  rw [← lowerBetween_before_sigma before (y ++ after)]
  induction x generalizing before with
  | nil =>
    have hbehind : lowerBetween ('Σ' :: before) after y = lowerBetween ['Σ'] after y :=
      lowerBetween_behind_sigma [] before after y
    rw [List.nil_append, lowerBetween_cons, hbehind]
    rfl
  | cons c x ih =>
    rw [List.cons_append, lowerBetween_cons, lowerBetween_cons, ih]
    simp

theorem lowerChars_eq_between (cs : List Char) : lowerChars cs = lowerBetween [] [] cs := by
  have hwhole := lowerFrom_append_between [] cs []
  rwa [List.append_nil, lowerFrom, List.append_nil] at hwhole

theorem lowerAt_alpha (before after : List Char) : lowerAt before 'α' after = ['α'] := by
  rw [lowerAt_of_ne (by decide)]
  decide

theorem casedNext_alpha : casedNext ['α'] = true := by decide

theorem lowerChars_concat_alpha (cs : List Char) :
    lowerChars (cs ++ ['α']) = lowerBetween [] ['α'] cs ++ ['α'] := by
  rw [lowerChars, lowerFrom_append_between, lowerFrom_cons, lowerAt_alpha, lowerFrom,
    List.append_nil]

theorem lowerChars_cons_alpha (cs : List Char) :
    lowerChars ('α' :: cs) = 'α' :: lowerBetween ['α'] [] cs := by
  rw [lowerChars_eq_between, lowerBetween_cons, lowerAt_alpha, List.singleton_append]

theorem count_append_cons_of_ne {u v : Char} (h : v ≠ u) (as bs : List Char) :
    (as ++ v :: bs).count u < (as ++ u :: bs).count u := by
  rw [List.count_append, List.count_append, List.count_cons_self, List.count_cons_of_ne h]
  omega

theorem not_infix_of_count_lt {u : Char} {xs ys : List Char} (h : ys.count u < xs.count u) :
    ¬ xs <:+: ys := fun hpart => Nat.not_le.mpr h (hpart.sublist.count_le u)

theorem not_infix_concat_alpha {x y : List Char} (hx : casedNext x.reverse = true)
    (hy : y.all isIgnorable = true) :
    ¬ lowerChars (x ++ 'Σ' :: y) <:+: lowerChars (x ++ 'Σ' :: y ++ ['α']) := by
  have halone : isFinal (x.reverse ++ []) (y ++ []) = true := by
    simp [isFinal, hx, casedNext_of_ignorable hy]
  have hplace : isFinal (x.reverse ++ []) (y ++ ['α']) = false := by
    simp [isFinal, casedNext_append_eq, hy, casedNext_alpha]
  apply not_infix_of_count_lt (u := 'ς')
  rw [lowerChars_concat_alpha, lowerChars_eq_between, lowerBetween_append_cons,
    lowerBetween_append_cons, halone, hplace, lowerBetween_of_ignorable hy,
    lowerBetween_of_ignorable hy, List.count_append]
  exact count_append_cons_of_ne (by decide) _ _

theorem not_infix_cons_alpha {x y : List Char} (hx : x.all isIgnorable = true)
    (hy : casedNext y = false) :
    ¬ lowerChars (x ++ 'Σ' :: y) <:+: lowerChars ('α' :: (x ++ 'Σ' :: y)) := by
  have halone : isFinal (x.reverse ++ []) (y ++ []) = false := by
    have hnone : casedNext x.reverse = false := casedNext_of_ignorable (by rwa [List.all_reverse])
    simp [isFinal, hnone]
  have hplace : isFinal (x.reverse ++ ['α']) (y ++ []) = true := by
    simp [isFinal, casedNext_append_eq, List.all_reverse, hx, hy, casedNext_alpha]
  apply not_infix_of_count_lt (u := 'σ')
  rw [lowerChars_cons_alpha, lowerChars_eq_between, lowerBetween_append_cons,
    lowerBetween_append_cons, halone, hplace, lowerBetween_of_ignorable hx,
    lowerBetween_of_ignorable hx, List.count_cons_of_ne (by decide)]
  exact count_append_cons_of_ne (by decide) _ _

/-- The lowercase of a text occurs wherever the text does, exactly if no sigma of it is open. -/
theorem forall_infix_iff (s : List Char) :
    (∀ a b, lowerChars s <:+: lowerChars (a ++ s ++ b)) ↔ ¬ HasOpenSigma s := by
  constructor
  · rintro h ⟨x, y, rfl, ⟨hx, hy⟩ | ⟨hx, hy⟩⟩
    · exact not_infix_concat_alpha hx hy (h [] ['α'])
    · have hpart := h ['α'] []
      rw [List.append_nil, List.singleton_append] at hpart
      exact not_infix_cons_alpha hx hy hpart
  · intro h a b
    exact lowerChars_infix_of_kept (sigmasKept_of_not_open h a b)

end Text
end LinkShelf
