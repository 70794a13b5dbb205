import LinkShelf.Text.Ranges

/-! White space, trimming, and the cut of a text into pieces and words. -/
namespace LinkShelf
namespace Text

def whiteRanges : List (Nat × Nat) :=
  [(0x09, 0x0D), (0x20, 0x20), (0x85, 0x85), (0xA0, 0xA0), (0x1680, 0x1680), (0x2000, 0x200A),
   (0x2028, 0x2029), (0x202F, 0x202F), (0x205F, 0x205F), (0x3000, 0x3000)]

def isWhite (c : Char) : Bool := inRanges c.toNat whiteRanges

theorem of_isWhite {P : Nat → Prop} {c : Char} (h : isWhite c = true)
    (hP : ∀ r ∈ whiteRanges, ∀ n ∈ List.range' r.1 (r.2 + 1 - r.1), P n) : P c.toNat := by
  obtain ⟨r, hr, hlo, hhi⟩ := exists_of_inRanges h
  refine hP r hr c.toNat ?_
  rw [List.mem_range'_1]
  omega

theorem dropWhile_of_head {p : Char → Bool} {cs : List Char}
    (h : ∀ c ∈ cs.head?, p c = false) : cs.dropWhile p = cs := by
  cases cs with
  | nil => rfl
  | cons c cs =>
    have hc : p c = false := h c (by simp)
    simp [hc]

/-- The list without the leading and trailing members of a class. -/
def strip (p : Char → Bool) (cs : List Char) : List Char :=
  ((cs.dropWhile p).reverse.dropWhile p).reverse

def trim (s : String) : String := String.ofList (strip isWhite s.toList)

/-- The pieces between separators, one more than there are separators. -/
def pieces (p : Char → Bool) : List Char → List (List Char)
  | [] => [[]]
  | c :: cs =>
    if p c then [] :: pieces p cs
    else match pieces p cs with
      | [] => [[c]]
      | w :: ws => (c :: w) :: ws

theorem pieces_ne_nil (p : Char → Bool) (cs : List Char) : pieces p cs ≠ [] := by
  cases cs with
  | nil => simp [pieces]
  | cons c cs =>
    by_cases h : p c
    · simp [pieces, h]
    · simp only [pieces, h]
      cases pieces p cs <;> simp

theorem pieces_of_none {p : Char → Bool} {cs : List Char} (h : ∀ c ∈ cs, p c = false) :
    pieces p cs = [cs] := by
  induction cs with
  | nil => rfl
  | cons c cs ih =>
    have hc : p c = false := h c (by simp)
    simp only [pieces, hc, ih fun x hx => h x (by simp [hx]), Bool.false_eq_true, if_false]

theorem pieces_append (p : Char → Bool) (as : List Char) {c : Char} (bs : List Char)
    (h : p c = true) : pieces p (as ++ c :: bs) = pieces p as ++ pieces p bs := by
  induction as with
  | nil => simp [pieces, h]
  | cons a as ih =>
    by_cases ha : p a
    · simp [pieces, ha, ih]
    · simp only [List.cons_append, pieces, ha, ih]
      cases hp : pieces p as with
      | nil => exact absurd hp (pieces_ne_nil p as)
      | cons w ws => simp

theorem pieces_append_of_none {p : Char → Bool} {as bs w : List Char} {init : List (List Char)}
    (has : pieces p as = init ++ [w]) (hbs : ∀ c ∈ bs, p c = false) :
    pieces p (as ++ bs) = init ++ [w ++ bs] := by
  induction as generalizing init w with
  | nil =>
    obtain ⟨rfl, rfl⟩ : init = [] ∧ w = [] := by
      cases init with
      | nil => simpa [pieces, eq_comm] using has
      | cons => simp [pieces] at has
    exact pieces_of_none hbs
  | cons a as ih =>
    by_cases ha : p a = true
    · simp only [pieces, ha, if_true] at has
      cases init with
      | nil => simp [pieces_ne_nil] at has
      | cons v init =>
        obtain ⟨rfl, hrest⟩ : [] = v ∧ pieces p as = init ++ [w] := by simpa using has
        simp only [List.cons_append, pieces, ha, if_true, ih hrest]
    · cases hrest : pieces p as with
      | nil => exact absurd hrest (pieces_ne_nil p as)
      | cons v rest =>
        simp only [pieces, ha, hrest] at has
        cases init with
        | nil =>
          obtain ⟨rfl, rfl⟩ : a :: v = w ∧ rest = [] := by simpa using has
          have hsingle : pieces p as = [] ++ [v] := hrest
          simp only [List.cons_append, pieces, ha, ih hsingle]
          rfl
        | cons u init =>
          obtain ⟨rfl, rfl⟩ : a :: v = u ∧ rest = init ++ [w] := by simpa using has
          have hmore : pieces p as = (v :: init) ++ [w] := hrest
          simp only [List.cons_append, pieces, ha, ih hmore]
          rfl

/-- The maximal runs of characters that are not white space. -/
def words (cs : List Char) : List (List Char) := (pieces isWhite cs).filter (!·.isEmpty)

theorem words_append (as : List Char) {c : Char} (bs : List Char) (h : isWhite c = true) :
    words (as ++ c :: bs) = words as ++ words bs := by simp [words, pieces_append _ _ _ h]

def occursIn (part : List Char) : List Char → Bool
  | [] => part.isEmpty
  | c :: cs => part.isPrefixOf (c :: cs) || occursIn part cs

theorem occursIn_iff {part cs : List Char} : occursIn part cs = true ↔ part <:+: cs := by
  induction cs with
  | nil => simp [occursIn]
  | cons c cs ih => simp [occursIn, ih, List.infix_cons_iff]

end Text
end LinkShelf
