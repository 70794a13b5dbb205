import LinkShelf.Proofs.Text.Items
import LinkShelf.Proofs.Yaml.Gap
import LinkShelf.Yaml.Scalar
import LinkShelf.Yaml.Writer

/-! Plain texts: words with spaces between them, which are read up to the end of their line. -/
namespace LinkShelf
namespace Yaml

/-- A word of a plain text. It does not end in a colon, so that no key ends with it. -/
structure IsWord (w : List Char) : Prop where
  ne_nil : w ≠ []
  dark : ∀ c ∈ w, isSpacing c = false
  head : w.head? ≠ some '#'
  last : w.getLast? ≠ some ':'

inductive IsWords : List Char → Prop
  | word {w : List Char} (hw : IsWord w) : IsWords w
  | more {w cs : List Char} (n : Nat) (hw : IsWord w) (hcs : IsWords cs) :
    IsWords (w ++ (List.replicate (n + 1) ' ' ++ cs))

section Words

variable {cs as bs : List Char}

theorem IsWord.beginsDark (h : IsWord cs) (tail : List Char) : BeginsDark (cs ++ tail) := by
  obtain ⟨x, w, rfl⟩ := List.exists_cons_of_ne_nil h.ne_nil
  rintro d ⟨⟩
  exact h.dark x List.mem_cons_self

theorem IsWords.beginsDark (h : IsWords cs) (tail : List Char) : BeginsDark (cs ++ tail) := by
  cases h with
  | word hw => exact hw.beginsDark tail
  | more n hw hcs =>
    rw [List.append_assoc]
    exact hw.beginsDark _

theorem exists_front (p : Char → Bool) (cs : List Char) : ∃ front back, cs = front ++ back ∧
    (∀ c ∈ front, p c = true) ∧ ∀ c ∈ back.head?, p c = false := by
  exact ⟨cs.takeWhile p, cs.dropWhile p, List.takeWhile_append_dropWhile.symm,
    List.all_eq_true.mp List.all_takeWhile, Text.head?_dropWhile⟩

theorem hasInnerMark_append (h : hasInnerMark (as ++ bs) = false) : hasInnerMark bs = false := by
  induction as with
  | nil => exact h
  | cons a as ih =>
    refine ih ?_
    cases hrest : as ++ bs with
    | nil => rfl
    | cons b cs =>
      rw [List.cons_append, hrest, hasInnerMark, Bool.or_eq_false_iff] at h
      exact h.2

/-- A colon at the end of a word is a mark, wherever it stands behind the first character. -/
theorem hasInnerMark_colon (a : Char) (as : List Char) (h : endsWord bs = true) :
    hasInnerMark (a :: (as ++ ':' :: bs)) = true := by
  induction as generalizing a with
  | nil => simp [hasInnerMark, h]
  | cons b as ih =>
    rw [List.cons_append, hasInnerMark, ih]
    exact Bool.or_true _

theorem isWord_of_noMark (hne : cs ≠ []) (hdark : ∀ c ∈ cs, isSpacing c = false)
    (hends : endsWord bs = true) (hmark : hasInnerMark (' ' :: (cs ++ bs)) = false) : IsWord cs := by
  obtain ⟨x, xs, rfl⟩ := List.exists_cons_of_ne_nil hne
  refine ⟨hne, hdark, ?_, fun hlast => ?_⟩
  · rintro ⟨⟩
    simp [hasInnerMark, isSpacing, isBlank] at hmark
  · obtain ⟨init, hinit⟩ := List.getLast?_eq_some_iff.mp hlast
    have hcolon := hasInnerMark_colon ' ' init hends
    rw [hinit, List.append_assoc] at hmark
    exact absurd (hcolon.symm.trans hmark) (by decide)

/-- A text of spaces and dark characters is made of words, if it neither begins nor ends with a space
and has no marks. -/
theorem isWords_of_noMark (hne : cs ≠ []) (hchars : ∀ c ∈ cs, c = ' ' ∨ isSpacing c = false)
    (hhead : cs.head? ≠ some ' ') (hlast : cs.getLast? ≠ some ' ')
    (hmark : hasInnerMark (' ' :: cs) = false) : IsWords cs := by
  induction hlength : cs.length using Nat.strongRecOn generalizing cs with
  | ind n ih =>
    obtain ⟨w, tail, rfl, hw, htail⟩ := exists_front (!isSpacing ·) cs
    simp only [Bool.not_eq_true', Bool.not_eq_false'] at hw htail
    have hends : endsWord tail = true := by
      cases tail with
      | nil => rfl
      | cons y ys => exact htail y rfl
    have hwne : w ≠ [] := by
      rintro rfl
      obtain ⟨y, ys, rfl⟩ := List.exists_cons_of_ne_nil hne
      rcases hchars y List.mem_cons_self with rfl | hdark
      · exact hhead rfl
      · exact absurd (hdark.symm.trans hends) (by decide)
    have hword := isWord_of_noMark hwne hw hends hmark
    obtain ⟨spaces, cs, rfl, hspaces, hnext⟩ := exists_front (· == ' ') tail
    simp only [beq_iff_eq, beq_eq_false_iff_ne] at hspaces hnext
    obtain ⟨k, rfl⟩ : ∃ k, spaces = List.replicate k ' ' :=
      ⟨_, List.eq_replicate_iff.mpr ⟨rfl, hspaces⟩⟩
    cases k with
    | zero =>
      -- no space follows, and the text ends with the word
      have hcs : cs = [] := by
        cases cs with
        | nil => rfl
        | cons y ys =>
          rcases hchars y (by simp) with rfl | hdark
          · exact absurd rfl (hnext _ rfl)
          · exact absurd (hdark.symm.trans hends) (by decide)
      subst hcs
      simpa using IsWords.word hword
    | succ k =>
      have hcsne : cs ≠ [] := by
        rintro rfl
        simp [List.getLast?_append, List.getLast?_replicate] at hlast
      have hinner : hasInnerMark (' ' :: cs) = false := by
        have hfront : hasInnerMark ((' ' :: (w ++ List.replicate k ' ')) ++ ' ' :: cs) = false := by
          simpa [List.replicate_succ'] using hmark
        exact hasInnerMark_append hfront
      refine .more k hword (ih cs.length ?_ hcsne (fun c hc => hchars c (by simp [hc]))
        (fun h => hnext _ h rfl) ?_ hinner rfl)
      · simp only [← hlength, List.length_append, List.length_replicate]
        omega
      · simpa [List.getLast?_append, List.getLast?_eq_some_getLast hcsne] using hlast

def marks : String := "#,[]\x7b\x7d&*!|>'\"%@`"

structure BeginsPlain (x : Char) (cs : List Char) : Prop where
  dark : isSpacing x = false
  not_mark : x ∉ marks.toList
  /-- These three belong to a text only with more of a word behind them. -/
  in_word : x = '-' ∨ x = '?' ∨ x = ':' → endsWord cs = false

theorem BeginsPlain.ne_sharp {x : Char} {xs : List Char} (h : BeginsPlain x xs) : x ≠ '#' := by
  rintro rfl
  exact h.not_mark (by decide)

theorem beginsPlain_of_noMark {x : Char} {xs : List Char} (hx : isSpacing x = false)
    (h : startsWithMark (x :: xs) = false) : BeginsPlain x xs := by
  rw [startsWithMark, String.contains_char_eq] at h
  simp only [Bool.or_eq_false_iff, decide_eq_false_iff_not, Bool.and_eq_false_imp, Bool.or_eq_true,
    beq_iff_eq, or_assoc] at h
  exact ⟨hx, h.1.1.1, h.1.1.2⟩

theorem isPrintable_of_needsDouble (h : needsDouble cs = false) : ∀ c ∈ cs, isPrintable c = true := by
  rw [needsDouble, Bool.or_eq_false_iff, List.any_eq_false] at h
  simpa using h.1

section Allowed

variable (h : plainAllowed cs = true)

include h

theorem isPrintable_of_plainAllowed : ∀ c ∈ cs, isPrintable c = true := by
  simp only [plainAllowed, Bool.and_eq_true, Bool.not_eq_true'] at h
  exact isPrintable_of_needsDouble h.1.1.1.1.1

theorem startsWithMark_of_plainAllowed : startsWithMark cs = false := by
  simp only [plainAllowed, Bool.and_eq_true, Bool.not_eq_true'] at h
  exact h.1.2

/-- What may be written plain, and is not empty, is made of words. -/
theorem isWords_of_plainAllowed (hne : cs ≠ []) : IsWords cs := by
  have hprintable := isPrintable_of_plainAllowed h
  simp only [plainAllowed, Bool.and_eq_true, Bool.not_eq_true', bne_iff_ne] at h
  obtain ⟨⟨⟨⟨⟨-, hbreak⟩, hhead⟩, hlast⟩, hstart⟩, hinner⟩ := h
  have hchars : ∀ c ∈ cs, c = ' ' ∨ isSpacing c = false := fun c hc =>
    space_or_dark (hprintable c hc) (Bool.eq_false_iff.mpr (List.any_eq_false.mp hbreak c hc))
  refine isWords_of_noMark hne hchars hhead hlast ?_
  obtain ⟨x, xs, rfl⟩ := List.exists_cons_of_ne_nil hne
  have hspace : x ≠ ' ' := fun hx => hhead (congrArg some hx)
  have hbegins := beginsPlain_of_noMark ((hchars x List.mem_cons_self).resolve_left hspace) hstart
  have hcolon : (x == ':' && endsWord xs) = false := by
    rw [Bool.and_eq_false_imp, beq_iff_eq]
    exact fun hx => hbegins.in_word (.inr (.inr hx))
  simp [hasInnerMark, hcolon, hbegins.ne_sharp, hinner]

end Allowed

end Words

section Reading

variable {w tail rest text : List Char} {indent : Int} {fuel : Nat} {g : Gap} {c : Cursor}

theorem plainWord_append (hdark : ∀ c ∈ w, isSpacing c = false) (hlast : w.getLast? ≠ some ':')
    (hstop : plainWord false tail = some []) : plainWord false (w ++ tail) = some w := by
  induction w with
  | nil => exact hstop
  | cons x w ih =>
    have hx : isSpacing x = false := hdark x List.mem_cons_self
    have hcolon : (x == ':' && endsWord (w ++ tail)) = false := by
      cases w with
      | nil => simp_all
      | cons y w =>
        have hy : isSpacing y = false := hdark y (by simp)
        simp [endsWord_cons, hy]
    have hrest : plainWord false (w ++ tail) = some w := by
      refine ih (fun c hc => hdark c (List.mem_cons_of_mem _ hc)) fun hw => hlast ?_
      cases w with
      | nil => cases hw
      | cons y w => simpa using hw
    rw [List.cons_append, plainWord]
    simp [hx, hcolon, hrest]

/-- One word of a scalar, with what was read before it. -/
theorem readPlain_word (hmark : c.atDocumentMark = false) (hc : c.rest = w ++ tail) (hw : IsWord w)
    (hstop : plainWord false tail = some []) :
    readPlain false indent (fuel + 1) text g c =
      if endsWord tail && !tail.isEmpty then do
        let (gap, c) ← (c.skip w.length).readGap indent (tail.length + 1) {}
        if c.column < indent then some (text ++ g.text ++ w, gap.broken, c)
        else readPlain false indent fuel (text ++ g.text ++ w) gap c
      else some (text ++ g.text ++ w, false, c.skip w.length) := by
  have hhead : (c.rest.head? == some '#') = false := by
    obtain ⟨x, xs, rfl⟩ := List.exists_cons_of_ne_nil hw.ne_nil
    have hx : x ≠ '#' := fun h => hw.head (by rw [h]; rfl)
    simp [hc, hx]
  have hword : plainWord false c.rest = some w := by
    rw [hc]
    exact plainWord_append hw.dark hw.last hstop
  have hrest : (c.skip w.length).rest = tail := by simp [hc]
  have hnonempty : w.isEmpty = false := by simpa using hw.ne_nil
  rw [readPlain, hmark, hhead]
  simp only [Bool.or_self, Bool.false_eq_true, if_false, hword, Option.bind_eq_bind,
    Option.bind_some, hnonempty, hrest, Bool.not_false, Bool.true_and, decide_eq_true_eq]

theorem readGap_spaces (n : Nat) {c : Cursor} (hc : c.rest = List.replicate n ' ' ++ tail)
    (hg : g.broken = false) :
    c.readGap indent (fuel + n) g =
      (c.skip n).readGap indent fuel { g with blanks := g.blanks ++ List.replicate n ' ' } := by
  induction n generalizing c g with
  | zero => simp
  | succ n ih =>
    have hnext : (c.skip 1).rest = List.replicate n ' ' ++ tail := by
      rw [Cursor.skip_rest, hc]
      rfl
    have hblank : g.addBlank ' ' = { g with blanks := g.blanks ++ [' '] } := by
      simp [Gap.addBlank, hg]
    rw [← Nat.add_assoc, Cursor.readGap_space hc, hblank,
      ih (g := { g with blanks := g.blanks ++ [' '] }) hnext hg]
    simp [List.replicate_succ, Nat.add_comm]

theorem readPlain_words {cs : List Char} (h : IsWords cs) (hrest : BeginsDark rest)
    (hindent : 0 < indent) (hfuel : cs.length < fuel) (hcolumn : indent ≤ c.column)
    (hc : c.rest = cs ++ '\n' :: rest) :
    ∃ c', readPlain false indent fuel text g c = some (text ++ g.text ++ cs, true, c') ∧
      c'.rest = rest ∧ c'.column = 0 := by
  have hnotMark : ∀ c : Cursor, indent ≤ c.column → c.atDocumentMark = false := by
    intro c hcolumn
    exact Cursor.atDocumentMark_of_column (by omega)
  induction h generalizing fuel text g c with
  | word hw =>
    rename_i w
    obtain ⟨fuel, rfl⟩ := Nat.exists_eq_add_one.mpr (Nat.zero_lt_of_lt hfuel)
    have hline : (c.skip w.length).rest = '\n' :: rest := by simp [hc]
    have hnext : (c.skip w.length).nextLine.rest = rest := by
      rw [Cursor.nextLine_rest, hline]
      rfl
    have hleft : ((c.skip w.length).nextLine.column : Int) < indent := hindent
    refine ⟨(c.skip w.length).nextLine, ?_, hnext, rfl⟩
    rw [readPlain_word (hnotMark c hcolumn) hc hw rfl, List.length_cons,
      Cursor.readGap_break hline (.inl rfl), Cursor.readGap_dark (hnext.symm ▸ hrest)]
    simp only [Option.bind_eq_bind, Option.bind_some, if_pos hleft]
    rfl
  | more n hw hcs ih =>
    rename_i w cs
    obtain ⟨fuel, rfl⟩ := Nat.exists_eq_add_one.mpr (Nat.zero_lt_of_lt hfuel)
    have hspaces : c.rest = w ++ (List.replicate (n + 1) ' ' ++ (cs ++ '\n' :: rest)) := by
      rw [hc, List.append_assoc, List.append_assoc]
    have hgap : (c.skip w.length).rest = List.replicate (n + 1) ' ' ++ (cs ++ '\n' :: rest) := by
      simp [hspaces]
    have hnext : ((c.skip w.length).skip (n + 1)).rest = cs ++ '\n' :: rest := by
      rw [Cursor.skip_rest, hgap]
      simp
    have hends : endsWord (List.replicate (n + 1) ' ' ++ (cs ++ '\n' :: rest)) = true := rfl
    have hright : indent ≤ ((c.skip w.length).skip (n + 1)).column := by
      rw [Cursor.skip_column, Cursor.skip_column]
      omega
    have hlength : (List.replicate (n + 1) ' ' ++ (cs ++ '\n' :: rest)).length + 1 =
        ((cs ++ '\n' :: rest).length + 1) + (n + 1) := by
      simp only [List.length_append, List.length_replicate]
      omega
    have hshorter : cs.length < fuel := by
      simp only [List.length_append, List.length_replicate] at hfuel
      omega
    obtain ⟨c', hread, hlast⟩ := @ih (text ++ g.text ++ w) fuel
      { blanks := List.replicate (n + 1) ' ' } _ hshorter hright hnext
    refine ⟨c', ?_, hlast⟩
    rw [readPlain_word (hnotMark c hcolumn) hspaces hw rfl, hlength, readGap_spaces (n + 1) hgap rfl,
      Cursor.readGap_dark (hnext.symm ▸ hcs.beginsDark _)]
    simp only [Option.bind_eq_bind, Option.bind_some, if_neg (Int.not_lt.mpr hright)]
    rw [List.nil_append, hread]
    simp [Gap.text, hends]

end Reading

end Yaml
end LinkShelf
