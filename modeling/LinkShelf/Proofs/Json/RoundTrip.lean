import LinkShelf.Proofs.Json.Tokens

/-! JSON that is printed is read back, in both layouts. The layouts are tied to the reader by the
texts that a value can have, with blanks wherever they may stand. -/
namespace LinkShelf
namespace Json

def Blanks (cs : List Char) : Prop := ∀ c ∈ cs, isBlank c = true

theorem blanks_nil : Blanks [] := by simp [Blanks]

theorem blanks_newLine (level : Nat) : Blanks (newLine level) := by
  intro c hc
  rcases List.mem_cons.mp hc with rfl | hc
  · rfl
  · rw [(List.mem_replicate.mp hc).2]
    rfl

theorem skipBlanks_append {pre : List Char} (hpre : Blanks pre) {c : Char}
    (hc : isBlank c = false) (rest : List Char) :
    skipBlanks (pre ++ c :: rest) = c :: rest := by
  rw [skipBlanks, List.dropWhile_append_of_pos hpre, List.dropWhile_cons, hc, if_neg (by decide)]

theorem isBlank_of_number {c : Char} (hc : c = '-' ∨ c.isDigit = true) : isBlank c = false := by
  simp only [isBlank, Bool.or_eq_false_iff, decide_eq_false_iff_not]
  refine ⟨⟨⟨?_, ?_⟩, ?_⟩, ?_⟩ <;>
  · rintro rfl
    exact absurd hc (by decide)

mutual

/-- The texts of a value, from its first character to its last. -/
inductive Spells : Json → List Char → Prop
  | null : Spells null "null".toList
  | bool (b : Bool) : Spells (bool b) (if b then "true" else "false").toList
  | number (n : Number) : Spells (number n) (printNumber n)
  | string (s : String) : Spells (string s) (printString s)
  | empty {a : List Char} (ha : Blanks a) : Spells (array []) ('[' :: (a ++ [']']))
  | array {xs : List Json} {a cs : List Char} (ha : Blanks a) (h : SpellsItems xs cs) :
    Spells (array xs) ('[' :: (a ++ cs))
  | fieldless {a : List Char} (ha : Blanks a) : Spells (object []) ('\x7b' :: (a ++ ['\x7d']))
  | object {fields : List (String × Json)} {a cs : List Char} (ha : Blanks a)
    (h : SpellsFields fields cs) : Spells (object fields) ('\x7b' :: (a ++ cs))

inductive SpellsItems : List Json → List Char → Prop
  | last {x : Json} {cs a : List Char} (h : Spells x cs) (ha : Blanks a) :
    SpellsItems [x] (cs ++ (a ++ [']']))
  | more {x : Json} {xs : List Json} {cs a b ds : List Char} (h : Spells x cs) (ha : Blanks a)
    (hb : Blanks b) (hs : SpellsItems xs ds) : SpellsItems (x :: xs) (cs ++ (a ++ ',' :: (b ++ ds)))

inductive SpellsFields : List (String × Json) → List Char → Prop
  | last {k : String} {x : Json} {cs a b : List Char} (ha : Blanks a) (h : Spells x cs)
    (hb : Blanks b) : SpellsFields [(k, x)] (printString k ++ ':' :: (a ++ (cs ++ (b ++ ['\x7d']))))
  | more {k : String} {x : Json} {fields : List (String × Json)} {cs a b c ds : List Char}
    (ha : Blanks a) (h : Spells x cs) (hb : Blanks b) (hc : Blanks c)
    (hs : SpellsFields fields ds) :
    SpellsFields ((k, x) :: fields)
      (printString k ++ ':' :: (a ++ (cs ++ (b ++ ',' :: (c ++ ds)))))

end

mutual

theorem spells_printPretty : ∀ (level : Nat) (j : Json), Spells j (printPretty level j)
  | _, .null => .null
  | _, .bool b => .bool b
  | _, .number n => .number n
  | _, .string s => .string s
  | _, .array [] => .empty blanks_nil
  | level, .array (x :: xs) => by
    have h := Spells.array (blanks_newLine (level + 1))
      (spellsItems_prettyItems level xs (spells_printPretty (level + 1) x))
    simpa only [printPretty, List.append_assoc, List.cons_append] using h
  | _, .object [] => .fieldless blanks_nil
  | level, .object ((k, x) :: fields) => by
    have h := Spells.object (blanks_newLine (level + 1))
      (spellsFields_prettyFields level fields k (spells_printPretty (level + 1) x))
    simpa only [printPretty, List.append_assoc, List.cons_append, List.nil_append] using h

theorem spellsItems_prettyItems : ∀ (level : Nat) (xs : List Json) {x : Json} {cs : List Char},
    Spells x cs → SpellsItems (x :: xs) (cs ++ (prettyItems level xs ++ (newLine level ++ [']'])))
  | level, [], _, _, h => .last h (blanks_newLine level)
  | level, y :: ys, _, _, h => by
    have hs := SpellsItems.more h blanks_nil (blanks_newLine (level + 1))
      (spellsItems_prettyItems level ys (spells_printPretty (level + 1) y))
    simpa only [prettyItems, List.append_assoc, List.cons_append, List.nil_append] using hs

theorem spellsFields_prettyFields : ∀ (level : Nat) (fields : List (String × Json)) (k : String)
    {x : Json} {cs : List Char}, Spells x cs → SpellsFields ((k, x) :: fields)
      (printString k ++ ':' :: ' ' :: (cs ++ (prettyFields level fields ++
        (newLine level ++ ['\x7d']))))
  | level, [], k, _, _, h => .last (a := [' ']) (by simp [Blanks, isBlank]) h (blanks_newLine level)
  | level, (k', y) :: ys, k, _, _, h => by
    have hs := SpellsFields.more (k := k) (a := [' ']) (by simp [Blanks, isBlank]) h blanks_nil
      (blanks_newLine (level + 1))
      (spellsFields_prettyFields level ys k' (spells_printPretty (level + 1) y))
    simpa only [prettyFields, List.append_assoc, List.cons_append, List.nil_append] using hs

end

mutual

theorem spells_print : ∀ j : Json, Spells j (print j)
  | .null => .null
  | .bool b => .bool b
  | .number n => .number n
  | .string s => .string s
  | .array [] => .empty blanks_nil
  | .array (x :: xs) => .array (a := []) blanks_nil (spellsItems_commas xs (spells_print x))
  | .object [] => .fieldless blanks_nil
  | .object ((k, x) :: fields) =>
    .object (a := []) blanks_nil (spellsFields_commas fields k (spells_print x))

theorem spellsItems_commas : ∀ (xs : List Json) {x : Json} {cs : List Char},
    Spells x cs → SpellsItems (x :: xs) (commas (cs :: printItems xs) ++ [']'])
  | [], _, _, h => .last h blanks_nil
  | y :: ys, _, _, h => by
    have hs := SpellsItems.more h blanks_nil blanks_nil (spellsItems_commas ys (spells_print y))
    simpa only [printItems, commas, List.append_assoc, List.cons_append, List.nil_append] using hs

theorem spellsFields_commas : ∀ (fields : List (String × Json)) (k : String) {x : Json}
    {cs : List Char}, Spells x cs → SpellsFields ((k, x) :: fields)
      (commas ((printString k ++ ':' :: cs) :: printFields fields) ++ ['\x7d'])
  | [], k, _, _, h => by
    have hs := SpellsFields.last (k := k) blanks_nil h blanks_nil
    simpa only [printFields, commas, List.append_assoc, List.cons_append, List.nil_append] using hs
  | (k', y) :: ys, k, _, _, h => by
    have hs := SpellsFields.more (k := k) blanks_nil h blanks_nil blanks_nil
      (spellsFields_commas ys k' (spells_print y))
    simpa only [printFields, commas, List.append_assoc, List.cons_append, List.nil_append] using hs

end

theorem Spells.head {j : Json} {cs : List Char} (h : Spells j cs) :
    ∃ c tail, cs = c :: tail ∧ isBlank c = false ∧ c ≠ ']' := by
  cases h with
  | null => exact ⟨'n', _, rfl, rfl, by decide⟩
  | bool b =>
    cases b
    · exact ⟨'f', _, rfl, rfl, by decide⟩
    · exact ⟨'t', _, rfl, rfl, by decide⟩
  | number n =>
    obtain ⟨c, tail, hn, hc⟩ := printNumber_head n
    exact ⟨c, tail, hn, isBlank_of_number hc, by rintro rfl; exact absurd hc (by decide)⟩
  | string s => exact ⟨'"', _, rfl, rfl, by decide⟩
  | empty => exact ⟨'[', _, rfl, rfl, by decide⟩
  | array => exact ⟨'[', _, rfl, rfl, by decide⟩
  | fieldless => exact ⟨'\x7b', _, rfl, rfl, by decide⟩
  | object => exact ⟨'\x7b', _, rfl, rfl, by decide⟩

theorem SpellsItems.head {xs : List Json} {cs : List Char} (h : SpellsItems xs cs) :
    ∃ c tail, cs = c :: tail ∧ isBlank c = false ∧ c ≠ ']' := by
  cases h with
  | last h ha =>
    obtain ⟨c, tail, rfl, hc⟩ := h.head
    exact ⟨c, _, rfl, hc⟩
  | more h ha hb hs =>
    obtain ⟨c, tail, rfl, hc⟩ := h.head
    exact ⟨c, _, rfl, hc⟩

theorem SpellsFields.head {fields : List (String × Json)} {cs : List Char}
    (h : SpellsFields fields cs) : ∃ tail, cs = '"' :: tail := by
  cases h with
  | last ha h hb => exact ⟨_, rfl⟩
  | more ha h hb hc hs => exact ⟨_, rfl⟩

section Reading

attribute [local simp] readValue readItems readFields

variable {fuel : Nat} {cs rest tail : List Char}

theorem readValue_null (h : skipBlanks cs = "null".toList ++ rest) :
    readValue (fuel + 1) cs = some (null, rest) := by
  simp [h]

theorem readValue_bool {b : Bool}
    (h : skipBlanks cs = (if b then "true" else "false").toList ++ rest) :
    readValue (fuel + 1) cs = some (bool b, rest) := by
  cases b <;> simp [h]

theorem readValue_string {s : String} (h : skipBlanks cs = '"' :: rest)
    (hs : readString rest = some (s, tail)) :
    readValue (fuel + 1) cs = some (string s, tail) := by
  simp [h, hs]

theorem readValue_number {c : Char} (h : skipBlanks cs = c :: rest)
    (hc : c = '-' ∨ c.isDigit = true) :
    readValue (fuel + 1) cs = (readNumber (c :: rest)).map fun (n, rest) => (number n, rest) := by
  rw [readValue, h]
  split
  case h_7 => rfl
  all_goals
    rename_i heq
    cases heq
    exact absurd hc (by decide)

theorem readValue_empty (h : skipBlanks cs = '[' :: rest) (hrest : skipBlanks rest = ']' :: tail) :
    readValue (fuel + 1) cs = some (array [], tail) := by
  simp [h, hrest]

theorem readValue_array {c : Char} {xs : List Json} (h : skipBlanks cs = '[' :: rest)
    (hrest : skipBlanks rest = c :: tail) (hc : c ≠ ']') {after : List Char}
    (hitems : readItems fuel (c :: tail) = some (xs, after)) :
    readValue (fuel + 1) cs = some (array xs, after) := by
  simp [h, hrest, hc, hitems]

theorem readValue_fieldless (h : skipBlanks cs = '\x7b' :: rest)
    (hrest : skipBlanks rest = '\x7d' :: tail) :
    readValue (fuel + 1) cs = some (object [], tail) := by
  simp [h, hrest]

theorem readValue_object {c : Char} {fields : List (String × Json)}
    (h : skipBlanks cs = '\x7b' :: rest) (hrest : skipBlanks rest = c :: tail) (hc : c ≠ '\x7d')
    {after : List Char} (hfields : readFields fuel (c :: tail) = some (fields, after)) :
    readValue (fuel + 1) cs = some (object fields, after) := by
  simp [h, hrest, hc, hfields]

theorem readItems_last {x : Json} (h : readValue fuel cs = some (x, rest))
    (hrest : skipBlanks rest = ']' :: tail) : readItems (fuel + 1) cs = some ([x], tail) := by
  simp [h, hrest]

theorem readItems_more {x : Json} {xs : List Json} (h : readValue fuel cs = some (x, rest))
    (hrest : skipBlanks rest = ',' :: tail) {after : List Char}
    (hitems : readItems fuel tail = some (xs, after)) :
    readItems (fuel + 1) cs = some (x :: xs, after) := by
  simp [h, hrest, hitems]

theorem readFields_last {k : String} {x : Json} {mid mid' mid'' : List Char}
    (h : skipBlanks cs = '"' :: rest) (hk : readString rest = some (k, mid))
    (hmid : skipBlanks mid = ':' :: mid') (hx : readValue fuel mid' = some (x, mid''))
    (hend : skipBlanks mid'' = '\x7d' :: tail) :
    readFields (fuel + 1) cs = some ([(k, x)], tail) := by
  simp [h, hk, hmid, hx, hend]

theorem readFields_more {k : String} {x : Json} {fields : List (String × Json)}
    {mid mid' mid'' : List Char} (h : skipBlanks cs = '"' :: rest)
    (hk : readString rest = some (k, mid)) (hmid : skipBlanks mid = ':' :: mid')
    (hx : readValue fuel mid' = some (x, mid'')) (hend : skipBlanks mid'' = ',' :: tail)
    {after : List Char} (hfields : readFields fuel tail = some (fields, after)) :
    readFields (fuel + 1) cs = some ((k, x) :: fields, after) := by
  simp [h, hk, hmid, hx, hend, hfields]

end Reading

theorem endsNumber_blanks {cs : List Char} (h : Blanks cs) : EndsNumber cs := by
  intro c hc
  have hblank := h c (List.mem_of_mem_head? hc)
  simp only [isBlank, Bool.or_eq_true, decide_eq_true_eq] at hblank
  rcases hblank with ((rfl | rfl) | rfl) | rfl <;> decide

theorem endsNumber_append {a : List Char} (ha : Blanks a) {c : Char}
    (hc : c = ',' ∨ c = ']' ∨ c = '\x7d') (rest : List Char) : EndsNumber (a ++ c :: rest) := by
  cases a with
  | nil =>
    intro d hd
    obtain rfl : c = d := by simpa using hd
    rcases hc with rfl | rfl | rfl <;> decide
  | cons b a => exact fun d hd => endsNumber_blanks ha d hd

mutual

/-- A text of a value is read, with blanks before it, up to a rest in which no number goes on. -/
theorem Spells.read {j : Json} {cs : List Char} (h : Spells j cs) {fuel : Nat}
    {pre rest : List Char} (hfuel : cs.length < fuel) (hpre : Blanks pre)
    (hrest : EndsNumber rest) : readValue fuel (pre ++ (cs ++ rest)) = some (j, rest) := by
  -- every text inside is shorter than this one, so one step less of fuel is enough for it
  obtain ⟨fuel, rfl⟩ := Nat.exists_eq_succ_of_ne_zero (Nat.ne_zero_of_lt hfuel)
  obtain ⟨c, tail, hcs, hblank, -⟩ := h.head
  have hskip : skipBlanks (pre ++ (cs ++ rest)) = cs ++ rest := by
    rw [hcs]
    exact skipBlanks_append hpre hblank (tail ++ rest)
  cases h with
  | null => exact readValue_null hskip
  | bool b => exact readValue_bool hskip
  | number n =>
    obtain ⟨d, ds, hn, hd⟩ := printNumber_head n
    have hread := readNumber_printNumber n hrest
    rw [hn, List.cons_append] at hskip hread
    rw [hn, List.cons_append, readValue_number hskip hd, hread]
    rfl
  | string s =>
    have htext : printString s ++ rest = '"' :: (s.toList.flatMap escapeChar ++ '"' :: rest) := by
      simp [printString]
    exact readValue_string (hskip.trans htext) (readString_printed s rest)
  | empty ha =>
    rename_i a
    simp only [List.cons_append, List.append_assoc] at hskip ⊢
    exact readValue_empty hskip (skipBlanks_append ha rfl rest)
  | array ha hs =>
    rename_i xs a ds
    -- no item begins with the bracket that would make the array empty
    obtain ⟨d, tail, hds, hd, hne⟩ := hs.head
    simp only [List.length_cons, List.length_append] at hfuel
    simp only [List.cons_append, List.append_assoc] at hskip ⊢
    have hitems : readItems fuel ([] ++ (ds ++ rest)) = some (xs, rest) :=
      hs.read (by omega) blanks_nil
    have hbegin := skipBlanks_append ha hd (tail ++ rest)
    rw [hds] at hskip hitems ⊢
    exact readValue_array hskip hbegin hne hitems
  | fieldless ha =>
    rename_i a
    simp only [List.cons_append, List.append_assoc] at hskip ⊢
    exact readValue_fieldless hskip (skipBlanks_append ha rfl rest)
  | object ha hs =>
    rename_i fields a ds
    obtain ⟨tail, hds⟩ := hs.head
    simp only [List.length_cons, List.length_append] at hfuel
    simp only [List.cons_append, List.append_assoc] at hskip ⊢
    have hfields : readFields fuel ([] ++ (ds ++ rest)) = some (fields, rest) :=
      hs.read (by omega) blanks_nil
    have hbegin := skipBlanks_append ha (c := '"') rfl (tail ++ rest)
    rw [hds] at hskip hfields ⊢
    exact readValue_object hskip hbegin (by decide) hfields

theorem SpellsItems.read {xs : List Json} {cs : List Char} (h : SpellsItems xs cs) {fuel : Nat}
    {pre rest : List Char} (hfuel : cs.length < fuel) (hpre : Blanks pre) :
    readItems fuel (pre ++ (cs ++ rest)) = some (xs, rest) := by
  obtain ⟨fuel, rfl⟩ := Nat.exists_eq_succ_of_ne_zero (Nat.ne_zero_of_lt hfuel)
  cases h with
  | last h ha =>
    rename_i x cs a
    simp only [List.length_append, List.length_cons, List.append_assoc, List.cons_append,
      List.nil_append] at hfuel ⊢
    have hx : readValue fuel (pre ++ (cs ++ (a ++ ']' :: rest))) = some (x, a ++ ']' :: rest) :=
      h.read (by omega) hpre (endsNumber_append ha (by simp) rest)
    exact readItems_last hx (skipBlanks_append ha rfl rest)
  | more h ha hb hs =>
    rename_i x xs cs a b ds
    simp only [List.length_append, List.length_cons, List.append_assoc, List.cons_append]
      at hfuel ⊢
    have hx : readValue fuel (pre ++ (cs ++ (a ++ ',' :: (b ++ (ds ++ rest))))) =
        some (x, a ++ ',' :: (b ++ (ds ++ rest))) :=
      h.read (by omega) hpre (endsNumber_append ha (by simp) _)
    exact readItems_more hx (skipBlanks_append ha rfl _) (hs.read (by omega) hb)

theorem SpellsFields.read {fields : List (String × Json)} {cs : List Char}
    (h : SpellsFields fields cs) {fuel : Nat} {pre rest : List Char} (hfuel : cs.length < fuel)
    (hpre : Blanks pre) : readFields fuel (pre ++ (cs ++ rest)) = some (fields, rest) := by
  obtain ⟨fuel, rfl⟩ := Nat.exists_eq_succ_of_ne_zero (Nat.ne_zero_of_lt hfuel)
  cases h with
  | last ha h hb =>
    rename_i k x cs a b
    simp only [printString, List.length_append, List.length_cons, List.append_assoc,
      List.cons_append, List.nil_append] at hfuel ⊢
    have hx : readValue fuel (a ++ (cs ++ (b ++ '\x7d' :: rest))) = some (x, b ++ '\x7d' :: rest) :=
      h.read (by omega) ha (endsNumber_append hb (by simp) rest)
    exact readFields_last (skipBlanks_append hpre rfl _) (readString_printed k _) rfl hx
      (skipBlanks_append hb rfl rest)
  | more ha h hb hc hs =>
    rename_i k x fields cs a b c ds
    simp only [printString, List.length_append, List.length_cons, List.append_assoc,
      List.cons_append, List.nil_append] at hfuel ⊢
    have hx : readValue fuel (a ++ (cs ++ (b ++ ',' :: (c ++ (ds ++ rest))))) =
        some (x, b ++ ',' :: (c ++ (ds ++ rest))) :=
      h.read (by omega) ha (endsNumber_append hb (by simp) _)
    exact readFields_more (skipBlanks_append hpre rfl _) (readString_printed k _) rfl hx
      (skipBlanks_append hb rfl _) (hs.read (by omega) hc)

end

theorem Spells.ofString? {j : Json} {cs post : List Char} (h : Spells j cs) (hpost : Blanks post) :
    ofString? (String.ofList (cs ++ post)) = some j := by
  have hlength : cs.length < (String.ofList (cs ++ post)).length + 1 := by
    rw [← String.length_toList, String.toList_ofList, List.length_append]
    omega
  have hread : readValue ((String.ofList (cs ++ post)).length + 1) ([] ++ (cs ++ post)) =
      some (j, post) := h.read hlength blanks_nil (endsNumber_blanks hpost)
  have hend : skipBlanks (post ++ []) = skipBlanks [] := List.dropWhile_append_of_pos hpost
  rw [List.append_nil] at hend
  rw [List.nil_append] at hread
  rw [Json.ofString?, String.toList_ofList, hread]
  simp only [hend]
  rfl

/-- What is printed on one line is read back. -/
theorem ofString?_compact (j : Json) : ofString? j.compact = some j := by
  simpa [compact] using (spells_print j).ofString? blanks_nil

/-- What is printed with one entry a line is read back. -/
theorem ofString?_pretty (j : Json) : ofString? j.pretty = some j := by
  simpa [pretty] using (spells_printPretty 0 j).ofString? blanks_nil

theorem ofString?_pretty_line (j : Json) : ofString? (j.pretty ++ "\n") = some j := by
  have hline : Blanks ['\n'] := by simp [Blanks, isBlank]
  have htext : j.pretty ++ "\n" = String.ofList (printPretty 0 j ++ ['\n']) := by
    rw [String.ofList_append]
    rfl
  rw [htext]
  exact (spells_printPretty 0 j).ofString? hline

end Json
end LinkShelf
