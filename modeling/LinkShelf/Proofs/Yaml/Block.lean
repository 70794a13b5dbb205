import LinkShelf.Proofs.Yaml.Gap
import LinkShelf.Yaml.Scalar
import LinkShelf.Yaml.Writer

/-! Literal blocks: the lines of a text behind their margins, and a header that tells what is kept of
the breaks at the end. -/
namespace LinkShelf
namespace Yaml

/-- What a block is from its lines, the break behind the last one, and the empty lines behind that. -/
def Chomp.text : Chomp → (text first more : List Char) → List Char
  | strip, text, _, _ => text
  | clip, text, first, _ => text ++ first
  | keep, text, first, more => text ++ first ++ more

/-- What the header of a text tells to keep. -/
def chompOf (cs : List Char) : Chomp :=
  if chompMark cs = ['-'] then .strip else if chompMark cs = ['+'] then .keep else .clip

section Chomping

variable {text first more : List Char} {x y : Char}

theorem chompOf_line (hx : isBreak x = false) : chompOf (text ++ [x]) = .strip := by
  have hmark : chompMark (text ++ [x]) = ['-'] := by
    rw [chompMark, List.reverse_append, List.reverse_singleton, List.singleton_append]
    cases text.reverse <;> simp [hx]
  rw [chompOf, if_pos hmark]

theorem chompOf_break (hx : isBreak x = false) (hy : isBreak y = true) :
    chompOf (text ++ [x] ++ [y]) = .clip := by
  have hmark : chompMark (text ++ [x] ++ [y]) = [] := by
    simp [chompMark, hx, hy]
  rw [chompOf, hmark]
  rfl

theorem chompOf_breaks (text : List Char) (hmore : ∀ c ∈ more, isBreak c = true)
    (hempty : text = [] ∧ more ≠ [] ∨ 2 ≤ more.length) : chompOf (text ++ more) = .keep := by
  have hmark : chompMark (text ++ more) = ['+'] := by
    have hlast : ∀ c ∈ more.reverse, isBreak c = true := fun c hc => hmore c (by simpa using hc)
    have hlength : more.reverse.length = more.length := List.length_reverse
    rw [chompMark, List.reverse_append]
    rcases hreverse : more.reverse with _ | ⟨a, _ | ⟨b, bs⟩⟩
    · have hnil : more = [] := List.reverse_eq_nil_iff.mp hreverse
      rcases hempty with ⟨-, hne⟩ | htwo
      · exact absurd hnil hne
      · rw [hnil] at htwo
        exact absurd htwo (by decide)
    · rw [hreverse] at hlast hlength
      rcases hempty with ⟨rfl, -⟩ | htwo
      · simp [hlast]
      · rw [← hlength] at htwo
        exact absurd htwo (by simp)
    · rw [hreverse] at hlast
      simp [hlast a (by simp), hlast b (by simp)]
  rw [chompOf, hmark]
  rfl

/-- What has been read in front of a line: lines with a break and empty lines behind them, or empty
lines only. -/
inductive InFront : (text first more : List Char) → Prop
  | empty {more : List Char} (hmore : ∀ c ∈ more, isBreak c = true) : InFront [] [] more
  | line {text more : List Char} {x y : Char} (hx : isBreak x = false) (hy : isBreak y = true)
    (hmore : ∀ c ∈ more, isBreak c = true) : InFront (text ++ [x]) [y] more

theorem InFront.addBreak (h : InFront text first more) (hy : isBreak y = true) :
    InFront text first (more ++ [y]) := by
  have hall : ∀ {bs : List Char}, (∀ c ∈ bs, isBreak c = true) →
      ∀ c ∈ bs ++ [y], isBreak c = true := by
    intro bs hbs c hc
    rcases List.mem_append.mp hc with hc | hc
    · exact hbs c hc
    · rwa [List.mem_singleton.mp hc]
  cases h with
  | empty hmore => exact .empty (hall hmore)
  | line hx hy' hmore => exact .line hx hy' (hall hmore)

/-- If the text ends in front of a line, its header tells to keep all of it. -/
theorem InFront.text_chompOf (h : InFront text first more) :
    (chompOf (text ++ first ++ more)).text text first more = text ++ first ++ more := by
  cases h with
  | empty hmore =>
    cases more with
    | nil => rfl
    | cons y ys =>
      have hkeep := chompOf_breaks [] hmore (.inl ⟨rfl, by simp⟩)
      rw [List.nil_append, hkeep]
      rfl
  | line hx hy hmore =>
    rename_i front x y
    cases more with
    | nil =>
      rw [List.append_nil, chompOf_break hx hy]
      rfl
    | cons z zs =>
      have hbreaks : ∀ c ∈ y :: z :: zs, isBreak c = true := List.forall_mem_cons.mpr ⟨hy, hmore⟩
      have hkeep := chompOf_breaks (front ++ [x]) hbreaks (.inr (by simp))
      rw [List.append_assoc _ [y], List.singleton_append, hkeep]
      exact List.append_assoc _ [y] _

end Chomping

def linesEnd (broken : Bool) : List Char → List Char
  | [] => if broken then [] else ['\n']
  | c :: cs => linesEnd (isBreak c) cs

theorem linesEnd_eq (broken : Bool) {cs : List Char} (h : cs ≠ []) :
    linesEnd broken cs = if cs.getLast?.any isBreak then [] else ['\n'] := by
  induction cs generalizing broken with
  | nil => exact absurd rfl h
  | cons c cs ih =>
    cases cs with
    | nil => rfl
    | cons d ds =>
      rw [linesEnd, ih (isBreak c) (by simp)]
      simp

section Breaks

variable {c : Cursor} {x : Char} {r : List Char} {fuel : Nat} (hcolumn : c.column = 0)

include hcolumn

theorem readBreaks_break (hc : c.rest = x :: r) (hx : IsPlainBreak x) :
    readBreaks 2 (fuel + 1) 0 c =
      (readBreaks 2 fuel 0 c.nextLine).map fun p => (x :: p.1, p.2) := by
  have hspace : (x == ' ') = false := by rcases hx with rfl | rfl | rfl <;> rfl
  have htab : (x == '\t') = false := by rcases hx with rfl | rfl | rfl <;> rfl
  have hstep : readBreaks 2 (fuel + 1) 0 c =
      (readBreaks 2 fuel 0 c.nextLine).bind fun p => some (x :: p.1, p.2) := by
    rw [readBreaks]
    simp [hc, hspace, htab, hcolumn, Cursor.atBreak_cons hc, hx.isBreak,
      Cursor.readBreak_plainBreak hc hx]
  rw [hstep]
  cases readBreaks 2 fuel 0 c.nextLine <;> rfl

theorem readBreaks_margin (hc : c.rest = margin ++ x :: r) (hx : isBreak x = false) :
    readBreaks 2 (fuel + 1) 0 c = some ([], 2, c.skip 2) := by
  have hnext : (c.skip 2).rest = x :: r := by rw [Cursor.skip_rest, hc]; rfl
  rw [readBreaks]
  simp [hc, margin, hcolumn, Cursor.atBreak_cons hnext, hx]

theorem readBreaks_unknown (hc : c.rest = margin ++ x :: r) (hx : isSpacing x = false) :
    readBreaks 0 (fuel + 1) 0 c = some ([], 2, c.skip 2) := by
  have hnext : (c.skip 2).rest = x :: r := by rw [Cursor.skip_rest, hc]; rfl
  obtain ⟨hspace, htab⟩ := Bool.or_eq_false_iff.mp (isBlank_of_dark hx)
  rw [readBreaks]
  simp [hc, margin, hcolumn, hspace, htab, Cursor.atBreak_cons hnext, isBreak_of_dark hx]

theorem readBreaks_dark (hc : BeginsDark c.rest) :
    readBreaks 2 (fuel + 1) 0 c = some ([], 0, c) := by
  obtain ⟨hspaces, htab⟩ :
      c.rest.takeWhile (· == ' ') = [] ∧ (c.rest.head? == some '\t') = false := by
    cases hrest : c.rest with
    | nil => exact ⟨rfl, rfl⟩
    | cons x r =>
      have hblank := isBlank_of_dark (hc x (by rw [hrest]; rfl))
      obtain ⟨hspace, htab⟩ := Bool.or_eq_false_iff.mp hblank
      exact ⟨by simp [hspace], by simpa using htab⟩
  rw [readBreaks]
  simp [hspaces, hcolumn, htab, Cursor.atBreak_of_beginsDark hc]

end Breaks

/-- The rest of a block in front of a line, when some empty lines have been read. The steps that are
left depend on where the next line is found. -/
def readOn (fuel : Cursor → Nat) (text first more : List Char) (blank : Bool) (c : Cursor) :
    Option (List Char × List Char × List Char × Cursor) := do
  let (bs, _, c) ← readBreaks 2 (c.rest.length + 1) 0 c
  readLines false 2 (fuel c) text first (more ++ bs) blank c

/-- The rest of a block inside a line. -/
def readLine (fuel : Nat) (text : List Char) (blank : Bool) (c : Cursor) :
    Option (List Char × List Char × List Char × Cursor) :=
  readOn (fun _ => fuel) (text ++ (c.span (!isBreak ·)).1) (c.span (!isBreak ·)).2.readBreak.1 []
    blank (c.span (!isBreak ·)).2.readBreak.2

section Lines

variable {fuel : Cursor → Nat} {n : Nat} {text first more r : List Char} {blank : Bool} {c : Cursor}
  {x : Char}

theorem readLine_char (hc : c.rest = x :: r) (hx : isBreak x = false) :
    readLine n text blank c = readLine n (text ++ [x]) blank (c.skip 1) := by
  have hspan : c.span (!isBreak ·) =
      (x :: ((c.skip 1).span (!isBreak ·)).1, ((c.skip 1).span (!isBreak ·)).2) := by
    simp [Cursor.span, hc, hx, Nat.add_comm]
  rw [readLine, hspan, readLine]
  simp

theorem readLine_break (hc : c.rest = x :: r) (hx : IsPlainBreak x) :
    readLine n text blank c = readOn (fun _ => n) text [x] [] blank c.nextLine := by
  have hspan : c.span (!isBreak ·) = ([], c) := by
    simp [Cursor.span, hc, hx.isBreak]
  rw [readLine, hspan, Cursor.readBreak_plainBreak hc hx, List.append_nil]

theorem readLines_line (hc : c.rest = x :: r) (hcolumn : c.column = 2) :
    readLines false 2 (n + 1) text first more blank c =
      readLine n (text ++ first ++ more) (isBlank x) c := by
  rw [readLines, hc]
  simp [hcolumn, readLine, readOn]

variable (hcolumn : c.column = 0)

include hcolumn

theorem readOn_break (hc : c.rest = x :: r) (hx : IsPlainBreak x) :
    readOn fuel text first more blank c =
      readOn fuel text first (more ++ [x]) blank c.nextLine := by
  have hlength : c.rest.length = c.nextLine.rest.length + 1 := by simp [hc]
  rw [readOn, hlength, readBreaks_break hcolumn hc hx, readOn]
  cases readBreaks 2 (c.nextLine.rest.length + 1) 0 c.nextLine with
  | none => rfl
  | some p => simp

theorem readOn_margin (hc : c.rest = margin ++ x :: r) (hx : isBreak x = false) :
    readOn fuel text first more blank c =
      readLines false 2 (fuel (c.skip 2)) text first more blank (c.skip 2) := by
  rw [readOn, readBreaks_margin hcolumn hc hx]
  simp

theorem readOn_dark (hc : BeginsDark c.rest) (hfuel : 0 < fuel c) :
    readOn fuel text first more blank c = some (text, first, more, c) := by
  obtain ⟨n, hn⟩ := Nat.exists_eq_add_one.mpr hfuel
  rw [readOn, readBreaks_dark hcolumn hc]
  simp only [Option.bind_eq_bind, Option.bind_some, List.append_nil, hn]
  rw [readLines]
  split
  · rfl
  · simp [hcolumn]

end Lines

/-- The lines of a block are read so that what its header tells to keep is the text. The cursor is at
the start of the line behind them. -/
def Keeps (o : Option (List Char × List Char × List Char × Cursor)) (text rest : List Char) : Prop :=
  ∃ t f m c, o = some (t, f, m, c) ∧ (chompOf text).text t f m = text ∧ c.rest = rest ∧ c.column = 0

/-- The lines of a text are read as the text, from inside a line and from in front of one. -/
theorem keeps_lines {cs rest : List Char} (hcs : ∀ c ∈ cs, isPrintable c = true)
    (hrest : BeginsDark rest) :
    (∀ (n : Nat) (text : List Char) (x : Char) (blank : Bool) (c : Cursor), isBreak x = false →
      c.rest.length < n → c.rest = linesFrom false cs ++ (linesEnd false cs ++ rest) →
        Keeps (readLine n (text ++ [x]) blank c) (text ++ [x] ++ cs) rest) ∧
    ∀ (fuel : Cursor → Nat) (text first more : List Char) (blank : Bool) (c : Cursor),
      InFront text first more → (∀ c', c'.rest.length ≤ c.rest.length → c'.rest.length < fuel c') →
        c.column = 0 → c.rest = linesFrom true cs ++ (linesEnd true cs ++ rest) →
          Keeps (readOn fuel text first more blank c) (text ++ first ++ more ++ cs) rest := by
  induction cs with
  | nil =>
    refine ⟨fun n text x blank c hx hfuel hc => ?_,
      fun fuel text first more blank c hfront hfuel hcolumn hc => ?_⟩
    · have hline : c.rest = '\n' :: rest := hc
      have hnext : c.nextLine.rest = rest := by simp [hline]
      have hn : 0 < n := Nat.zero_lt_of_lt hfuel
      rw [readLine_break hline (.inl rfl), readOn_dark rfl (hnext.symm ▸ hrest) hn, List.append_nil]
      refine ⟨_, _, _, _, rfl, ?_, hnext, rfl⟩
      rw [chompOf_line hx]
      rfl
    · have hend : c.rest = rest := hc
      rw [readOn_dark hcolumn (hend.symm ▸ hrest) (Nat.zero_lt_of_lt (hfuel c (Nat.le_refl _))),
        List.append_nil]
      exact ⟨_, _, _, _, rfl, hfront.text_chompOf, hend, hcolumn⟩
  | cons y cs ih =>
    obtain ⟨hy, hcs⟩ := List.forall_mem_cons.mp hcs
    obtain ⟨hinside, hbefore⟩ := ih hcs
    cases hbreak : isBreak y with
    | true =>
      have hplain := plainBreak_of_isBreak hy hbreak
      have hwritten : ∀ broken, linesFrom broken (y :: cs) ++ (linesEnd broken (y :: cs) ++ rest) =
          y :: (linesFrom true cs ++ (linesEnd true cs ++ rest)) := by
        intro broken
        simp [linesFrom, linesEnd, hbreak]
      simp only [hwritten]
      refine ⟨fun n text x blank c hx hfuel hc => ?_,
        fun fuel text first more blank c hfront hfuel hcolumn hc => ?_⟩
      · have hnext : c.nextLine.rest = linesFrom true cs ++ (linesEnd true cs ++ rest) := by
          simp [hc]
        have hlength : c.rest.length = c.nextLine.rest.length + 1 := by simp [hc]
        have hkeeps := hbefore (fun _ => n) (text ++ [x]) [y] [] blank c.nextLine
          (.line hx hbreak (by simp)) (fun c' hc' => by omega) rfl hnext
        rw [readLine_break hc hplain]
        simpa using hkeeps
      · have hnext : c.nextLine.rest = linesFrom true cs ++ (linesEnd true cs ++ rest) := by
          simp [hc]
        have hlength : c.rest.length = c.nextLine.rest.length + 1 := by simp [hc]
        have hkeeps := hbefore fuel text first (more ++ [y]) blank c.nextLine
          (hfront.addBreak hbreak) (fun c' hc' => hfuel c' (by omega)) rfl hnext
        rw [readOn_break hcolumn hc hplain]
        simpa using hkeeps
    | false =>
      have hwritten : ∀ broken, linesFrom broken (y :: cs) ++ (linesEnd broken (y :: cs) ++ rest) =
          (if broken then margin else []) ++
            y :: (linesFrom false cs ++ (linesEnd false cs ++ rest)) := by
        intro broken
        simp [linesFrom, linesEnd, hbreak]
      simp only [hwritten]
      -- from its first character on, a line is read in the same way wherever it stands
      have hline : ∀ (n : Nat) (text : List Char) (blank : Bool) (c : Cursor),
          c.rest.length ≤ n → c.rest = y :: (linesFrom false cs ++ (linesEnd false cs ++ rest)) →
            Keeps (readLine n text blank c) (text ++ y :: cs) rest := by
        intro n text blank c hfuel hc
        have hlength : c.rest.length = (c.skip 1).rest.length + 1 := by simp [hc]
        have hkeeps := hinside n text y blank (c.skip 1) hbreak (by omega) (by simp [hc])
        rw [readLine_char hc hbreak]
        simpa using hkeeps
      refine ⟨fun n text x blank c hx hfuel hc => hline n _ blank c (Nat.le_of_lt hfuel) hc,
        fun fuel text first more blank c hfront hfuel hcolumn hc => ?_⟩
      have hnext : (c.skip 2).rest = y :: (linesFrom false cs ++ (linesEnd false cs ++ rest)) := by
        rw [Cursor.skip_rest, hc]
        rfl
      have hsteps := hfuel (c.skip 2) (by simp)
      obtain ⟨n, hn⟩ := Nat.exists_eq_add_one.mpr (Nat.zero_lt_of_lt hsteps)
      have htwo : (c.skip 2).column = 2 := by simp [hcolumn]
      rw [readOn_margin hcolumn hc hbreak, hn, readLines_line hnext htwo]
      exact hline n _ _ _ (by omega) hnext

section Header

variable {cs r : List Char} {c : Cursor}

def isIndented (cs : List Char) : Bool := cs.head?.any fun c => c == ' ' || isBreak c

theorem chompMark_cases (cs : List Char) : chompMark cs = ['-'] ∧ chompOf cs = .strip ∨
    chompMark cs = ['+'] ∧ chompOf cs = .keep ∨ chompMark cs = [] ∧ chompOf cs = .clip := by
  have hmark : chompMark cs = ['-'] ∨ chompMark cs = ['+'] ∨ chompMark cs = [] := by
    unfold chompMark
    split
    · exact .inl rfl
    · split <;> simp
    · split
      · exact .inl rfl
      · split <;> simp
  rcases hmark with hmark | hmark | hmark
  · exact .inl ⟨hmark, by rw [chompOf, hmark]; rfl⟩
  · exact .inr (.inl ⟨hmark, by rw [chompOf, hmark]; rfl⟩)
  · exact .inr (.inr ⟨hmark, by rw [chompOf, hmark]; rfl⟩)

/-- A header tells what is kept of its text. -/
theorem readHeader_header (hc : c.rest = (header cs).tail ++ '\n' :: r) : ∃ c',
    readHeader c = some (chompOf cs, if isIndented cs then 2 else 0, c') ∧ c'.rest = '\n' :: r := by
  obtain ⟨written, index, line, column⟩ := c
  have hwritten : written = (if isIndented cs then ['2'] else []) ++ (chompMark cs ++ '\n' :: r) := by
    rw [← List.append_assoc]
    exact hc
  let width := (if isIndented cs then ['2'] else []).length + (chompMark cs).length
  refine ⟨⟨'\n' :: r, index + width, line, column + width⟩, ?_, rfl⟩
  subst hwritten
  cases hindented : isIndented cs <;>
    rcases chompMark_cases cs with ⟨hmark, hchomp⟩ | ⟨hmark, hchomp⟩ | ⟨hmark, hchomp⟩ <;>
    simp [width, hindented, hmark, hchomp, readHeader, Cursor.skip]

theorem skipComment_break (hc : c.rest = '\n' :: r) : skipComment c = some c.nextLine := by
  have hblanks : c.skipWhile isBlank = c := by
    simp [Cursor.skipWhile, Cursor.span, hc, isBlank]
  simp [skipComment, hblanks, hc, Cursor.atBreak_cons hc, isBreak, Cursor.skipBreak,
    Cursor.readBreak_plainBreak hc (.inl rfl)]

theorem exists_dark_of_not_isIndented (hne : cs ≠ []) (hcs : ∀ c ∈ cs, isPrintable c = true)
    (h : isIndented cs = false) : ∃ x xs, cs = x :: xs ∧ isSpacing x = false := by
  obtain ⟨x, xs, rfl⟩ := List.exists_cons_of_ne_nil hne
  obtain ⟨hspace, hbreak⟩ : (x == ' ') = false ∧ isBreak x = false := Bool.or_eq_false_iff.mp h
  exact ⟨x, xs, rfl, (space_or_dark (hcs x List.mem_cons_self) hbreak).resolve_left
    (beq_eq_false_iff_ne.mp hspace)⟩

theorem readBlock_of_readLines {chomp : Chomp} {increment widest : Nat} {given indent : Int}
    {more t f m : List Char} {first last c' : Cursor}
    (hheader : readHeader c = some (chomp, increment, c')) (hc' : c'.rest = '\n' :: r)
    (hgiven : (if increment = 0 then 0 else max 0 0 + (increment : Int)) = given)
    (hbreaks : readBreaks given (c'.nextLine.rest.length + 1) 0 c'.nextLine = some (more, widest, first))
    (hindent : (if given = 0 then max (max (widest : Int) (0 + 1)) 1 else given) = indent)
    (hlines : readLines false indent (first.rest.length + 1) [] [] more false first =
      some (t, f, m, last)) :
    readBlock false 0 c = some (chomp.text t f m, last) := by
  simp only [readBlock, hheader, skipComment_break hc', Option.bind_eq_bind, Option.bind_some,
    hgiven, hbreaks, hindent, hlines]
  cases chomp <;> rfl

theorem readBlock_literal {rest : List Char} (hne : cs ≠ []) (hcs : ∀ c ∈ cs, isPrintable c = true)
    (hrest : BeginsDark rest)
    (hc : c.rest = (header cs).tail ++ '\n' :: (linesFrom true cs ++ (linesEnd true cs ++ rest))) :
    ∃ c', readBlock false 0 c = some (cs, c') ∧ c'.rest = rest ∧ c'.column = 0 := by
  obtain ⟨c', hheader, hc'⟩ := readHeader_header hc
  have hnext : c'.nextLine.rest = linesFrom true cs ++ (linesEnd true cs ++ rest) := by
    simp [hc']
  obtain ⟨t, f, m, last, hlines, hkept, hlast⟩ := (keeps_lines hcs hrest).2
    (fun c => c.rest.length + 1) [] [] [] false c'.nextLine (.empty (by simp))
    (fun c _ => Nat.lt_succ_self _) rfl hnext
  have hread : readBlock false 0 c = some ((chompOf cs).text t f m, last) := by
    cases hindented : isIndented cs with
    | true =>
      rw [hindented, if_pos rfl] at hheader
      obtain ⟨⟨more, widest, first⟩, hbreaks, hrun⟩ := Option.bind_eq_some_iff.mp hlines
      exact readBlock_of_readLines hheader hc' rfl hbreaks rfl hrun
    | false =>
      obtain ⟨x, xs, rfl, hx⟩ := exists_dark_of_not_isIndented hne hcs hindented
      have hword : isBreak x = false := isBreak_of_dark hx
      have hmargin : c'.nextLine.rest = margin ++ x :: (linesFrom false xs ++
          (linesEnd true (x :: xs) ++ rest)) := by
        rw [hnext, linesFrom, hword]
        rfl
      rw [hindented, if_neg Bool.false_ne_true] at hheader
      rw [readOn_margin rfl hmargin hword] at hlines
      exact readBlock_of_readLines hheader hc' rfl (readBreaks_unknown rfl hmargin hx) rfl hlines
  refine ⟨last, ?_, hlast⟩
  rw [hread]
  simp only [List.nil_append] at hkept
  rw [hkept]

end Header

end Yaml
end LinkShelf
