import LinkShelf.Link.Collection
import LinkShelf.Proofs.Outcome
import LinkShelf.Text.Items

/-! Comma lists are read back when each of their members can be an item: it is not empty, holds no
comma, and has no white space around it. -/
namespace LinkShelf
namespace Text

/-- What an item of a comma list can be. -/
structure IsItem (s : String) : Prop where
  ne_empty : s ≠ ""
  comma_not_mem : ',' ∉ s.toList
  head_not_white : ∀ c ∈ s.toList.head?, isWhite c = false
  last_not_white : ∀ c ∈ s.toList.getLast?, isWhite c = false

theorem isItem_iff {s : String} : IsItem s ↔ s ≠ "" ∧ ',' ∉ s.toList ∧
    s.toList.head?.all (!isWhite ·) = true ∧ s.toList.getLast?.all (!isWhite ·) = true := by
  simp only [Option.all_eq_true, Bool.not_eq_true']
  constructor
  · intro h
    exact ⟨h.ne_empty, h.comma_not_mem, h.head_not_white, h.last_not_white⟩
  · rintro ⟨hne, hcomma, hhead, hlast⟩
    exact ⟨hne, hcomma, hhead, hlast⟩

instance (s : String) : Decidable (IsItem s) := decidable_of_iff _ isItem_iff.symm

/-- Pieces without commas are found again between the commas. -/
theorem pieces_intercalate {parts : List (List Char)} (hne : parts ≠ [])
    (h : ∀ cs ∈ parts, ',' ∉ cs) :
    pieces (· == ',') (List.intercalate [','] parts) = parts := by
  have hpiece : ∀ cs ∈ parts, pieces (· == ',') cs = [cs] := by
    intro cs hcs
    apply pieces_of_none
    intro c hc
    have hcomma : c ≠ ',' := fun heq => h cs hcs (heq ▸ hc)
    simpa using hcomma
  clear h
  induction parts with
  | nil => exact absurd rfl hne
  | cons cs parts ih =>
    cases parts with
    | nil => simpa using hpiece cs (by simp)
    | cons ds parts =>
      have hrest := ih (by simp) fun xs hxs => hpiece xs (by simp [hxs])
      rw [List.intercalate_cons_cons, List.append_assoc, List.singleton_append,
        pieces_append _ _ _ (by simp), hpiece cs (by simp), hrest]
      rfl

theorem strip_of_ends {p : Char → Bool} {cs : List Char} (hhead : ∀ c ∈ cs.head?, p c = false)
    (hlast : ∀ c ∈ cs.getLast?, p c = false) : strip p cs = cs := by
  have hback : ∀ c ∈ cs.reverse.head?, p c = false := by
    rw [List.head?_reverse]
    exact hlast
  rw [strip, dropWhile_of_head hhead, dropWhile_of_head hback, List.reverse_reverse]

theorem not_of_mem_pieces {p : Char → Bool} {cs w : List Char} (hw : w ∈ pieces p cs) {c : Char}
    (hc : c ∈ w) : p c = false := by
  induction cs generalizing w with
  | nil =>
    obtain rfl : w = [] := by simpa [pieces] using hw
    simp at hc
  | cons a cs ih =>
    by_cases ha : p a = true
    · rcases List.mem_cons.mp (by simpa [pieces, ha] using hw) with rfl | hw
      · simp at hc
      · exact ih hw hc
    · cases hrest : pieces p cs with
      | nil => exact absurd hrest (pieces_ne_nil p cs)
      | cons v vs =>
        simp only [pieces, ha, hrest] at hw
        rcases List.mem_cons.mp hw with rfl | hw
        · rcases List.mem_cons.mp hc with rfl | hc
          · simpa using ha
          · exact ih (by rw [hrest]; simp) hc
        · exact ih (by rw [hrest]; simp [hw]) hc

theorem head?_dropWhile {p : Char → Bool} {cs : List Char} :
    ∀ c ∈ (cs.dropWhile p).head?, p c = false := by
  intro c hc
  have hnot := List.head?_dropWhile_not p cs
  rw [Option.mem_def.mp hc] at hnot
  simpa using hnot

theorem strip_isFront (p : Char → Bool) (cs : List Char) : strip p cs <+: cs.dropWhile p := by
  rw [← List.reverse_suffix, strip, List.reverse_reverse]
  exact List.dropWhile_suffix p

theorem head?_strip {p : Char → Bool} {cs : List Char} : ∀ c ∈ (strip p cs).head?, p c = false := by
  intro c hc
  obtain ⟨rest, hrest⟩ := strip_isFront p cs
  have hkept : c ∈ (cs.dropWhile p).head? := by
    rw [← hrest, List.head?_append, Option.mem_def.mp hc]
    rfl
  exact head?_dropWhile c hkept

theorem getLast?_strip {p : Char → Bool} {cs : List Char} :
    ∀ c ∈ (strip p cs).getLast?, p c = false := by
  intro c hc
  rw [strip, List.getLast?_reverse] at hc
  exact head?_dropWhile c hc

/-- Whatever is read as an item can be one. -/
theorem isItem_of_mem_items {s x : String} (hx : x ∈ items s) : IsItem x := by
  simp only [items, List.mem_map, List.mem_filter] at hx
  obtain ⟨_, ⟨⟨w, hw, rfl⟩, hne⟩, rfl⟩ := hx
  refine ⟨by simpa using hne, ?_, ?_, ?_⟩
  · rw [String.toList_ofList]
    intro hcomma
    have hmem : ',' ∈ w :=
      (List.dropWhile_suffix isWhite).subset ((strip_isFront isWhite w).subset hcomma)
    simpa using not_of_mem_pieces hw hmem
  · rw [String.toList_ofList]
    exact head?_strip
  · rw [String.toList_ofList]
    exact getLast?_strip

@[simp] theorem joinItems_nil : joinItems [] = "" := by simp [joinItems]

theorem items_joinItems {xs : List String} (h : ∀ x ∈ xs, IsItem x) :
    items (joinItems xs) = xs := by
  by_cases hne : xs = []
  · subst hne
    rw [joinItems_nil]
    decide
  have hcomma : ",".toList = [','] := rfl
  have hpieces : pieces (· == ',') (joinItems xs).toList = xs.map String.toList := by
    rw [joinItems, String.toList_intercalate, hcomma]
    apply pieces_intercalate
    · simpa using hne
    · intro cs hcs
      obtain ⟨x, hx, rfl⟩ := List.mem_map.mp hcs
      exact (h x hx).comma_not_mem
  have hstrip : ∀ x ∈ xs, strip isWhite x.toList = x.toList := fun x hx =>
    strip_of_ends (h x hx).head_not_white (h x hx).last_not_white
  have hkept : ∀ x ∈ xs, (!x.toList.isEmpty) = true := by
    intro x hx
    simpa using (h x hx).ne_empty
  rw [items, hpieces, List.map_map,
    List.map_congr_left (g := String.toList) (by simpa using hstrip),
    List.filter_eq_self.mpr (by simpa using hkept), List.map_map]
  simp

theorem items_append_comma (s t : String) : items (s ++ "," ++ t) = items s ++ items t := by
  have hchars : (s ++ "," ++ t).toList = s.toList ++ ',' :: t.toList := by simp
  have hpieces := pieces_append (· == ',') s.toList t.toList (c := ',') rfl
  simp only [items, hchars, hpieces, List.map_append, List.filter_append]

/-- A comma list is read as items, and two lists with a comma between them one after the other. What is
joined is read back exactly if all of it can be items. -/
theorem items_read_back (s t : String) (xs : List String) :
    (∀ x ∈ items s, IsItem x) ∧
    items (s ++ "," ++ t) = items s ++ items t ∧
    (items (joinItems xs) = xs ↔ ∀ x ∈ xs, IsItem x) := by
  refine ⟨fun x hx => isItem_of_mem_items hx, items_append_comma s t, ?_, items_joinItems⟩
  intro hback x hx
  exact isItem_of_mem_items (hback.symm ▸ hx)

end Text

namespace Collection

theorem isItem_name (c : Collection) : Text.IsItem c.name := by
  cases c <;> decide

theorem ofNames_map_name (cs : List Collection) : ofNames (cs.map name) = .ok cs := by
  induction cs with
  | nil => rfl
  | cons c cs ih =>
    simp only [List.map_cons, ofNames, ofName?_name, ih]
    rfl

theorem ofNames_eq_ok_iff {names : List String} {cs : List Collection} :
    ofNames names = .ok cs ↔ names = cs.map name := by
  constructor
  · intro h
    induction names generalizing cs with
    | nil =>
      obtain rfl : [] = cs := Except.ok.inj h
      rfl
    | cons s names ih =>
      cases hs : ofName? s with
      | none =>
        simp only [ofNames, hs] at h
        cases h
      | some c =>
        simp only [ofNames, hs] at h
        obtain ⟨ds, hds, rfl⟩ := Outcome.map_eq_ok.mp h
        rw [List.map_cons, name_of_ofName? hs, ← ih hds]
  · rintro rfl
    exact ofNames_map_name cs

theorem ofNames_items_joinItems (cs : List Collection) :
    ofNames (Text.items (Text.joinItems (cs.map name))) = .ok cs := by
  have hnames : ∀ x ∈ cs.map name, Text.IsItem x := by
    intro x hx
    obtain ⟨c, -, rfl⟩ := List.mem_map.mp hx
    exact c.isItem_name
  rw [Text.items_joinItems hnames, ofNames_map_name]

end Collection
end LinkShelf
