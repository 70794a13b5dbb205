import LinkShelf.Csv.Reader

/-! The grammar of tables, beside their reader. What has been read of a record is at each byte the
front of one in the grammar, so the records that are read are those of the grammar, and no bytes
have other ones. -/
namespace LinkShelf
namespace Csv

def doubled (f : Bytes) : Bytes := f.flatMap fun b => if b == quote then [quote, quote] else [b]

/-- Bytes outside quotes, which neither begin with a quote nor end the field. -/
structure IsBare (f : Bytes) : Prop where
  head?_ne : f.head? ≠ some quote
  not_ends : ∀ b ∈ f, b ≠ comma ∧ endsRecord b = false

/-- The part of a field between quotes, which may be missing. -/
inductive QuotedText : Bytes → Bytes → Prop
  | none : QuotedText [] []
  | quotes (f : Bytes) : QuotedText (quote :: doubled f ++ [quote]) f

/-- A field: a part between quotes, and bare bytes. -/
inductive FieldText : Bytes → Bytes → Prop
  | intro {us f rest : Bytes} (hquoted : QuotedText us f) (hbare : IsBare rest) :
    FieldText (us ++ rest) (f ++ rest)

inductive FieldsText : Bytes → List Bytes → Prop
  | nil : FieldsText [] []
  | snoc {ts us f : Bytes} {fs : List Bytes} (h : FieldsText ts fs) (hf : FieldText us f) :
    FieldsText (ts ++ us ++ [comma]) (fs ++ [f])

/-- The fields of a record with a comma between each two. No record is an empty line. -/
inductive RecordText : Bytes → List Bytes → Prop
  | intro {ts us f : Bytes} {fs : List Bytes} (h : FieldsText ts fs) (hf : FieldText us f)
    (hne : ts ++ us ≠ []) : RecordText (ts ++ us) (fs ++ [f])

/-- A record whose last quote is not closed. -/
inductive OpenText : Bytes → List Bytes → Prop
  | intro {ts : Bytes} {fs : List Bytes} (h : FieldsText ts fs) (f : Bytes) :
    OpenText (ts ++ quote :: doubled f) (fs ++ [f])

/-- Records and empty lines. What ends a record is not needed behind the last one, and cannot stand
behind one with an open quote. -/
inductive TableText : Bytes → List (List Bytes) → Prop
  | nil : TableText [] []
  | blank {b : UInt8} {bs : Bytes} {rs : List (List Bytes)} (hb : endsRecord b = true)
    (h : TableText bs rs) : TableText (b :: bs) rs
  | record {t bs : Bytes} {b : UInt8} {r : List Bytes} {rs : List (List Bytes)}
    (hr : RecordText t r) (hb : endsRecord b = true) (h : TableText bs rs) :
    TableText (t ++ b :: bs) (r :: rs)
  | last {t : Bytes} {r : List Bytes} (hr : RecordText t r) : TableText t [r]
  | unclosed {t : Bytes} {r : List Bytes} (hr : OpenText t r) : TableText t [r]

def byteOrderMark : Bytes := [0xEF, 0xBB, 0xBF]

/-- A table with or without a byte order mark, which no record begins with. -/
inductive FileText : Bytes → List (List Bytes) → Prop
  | marked {bs : Bytes} {rs : List (List Bytes)} (h : TableText bs rs) :
    FileText (byteOrderMark ++ bs) rs
  | plain {bs : Bytes} {rs : List (List Bytes)} (hmark : ¬ byteOrderMark <+: bs)
    (h : TableText bs rs) : FileText bs rs

/-- The mode outside quotes, by what was read of the record: whole fields, a part between quotes,
and what follows it. -/
def modeAfter (ts us rest : Bytes) : Mode :=
  if rest ≠ [] then .plain else if us ≠ [] then .quoteSeen else if ts ≠ [] then .field else .record

/-- What has been read of a record, and the state that it leaves. -/
inductive Reads : Bytes → Partial → Prop
  | outside {ts us rest f : Bytes} {fs : List Bytes} (h : FieldsText ts fs)
    (hquoted : QuotedText us f) (hbare : IsBare rest) :
    Reads (ts ++ (us ++ rest)) ⟨modeAfter ts us rest, (f ++ rest).reverse, fs.reverse⟩
  | inside {ts : Bytes} {fs : List Bytes} (h : FieldsText ts fs) (f : Bytes) :
    Reads (ts ++ quote :: doubled f) ⟨.quoted, f.reverse, fs.reverse⟩

theorem isBare_nil : IsBare [] := ⟨by simp, by simp⟩

theorem Reads.nil : Reads [] {} := .outside .nil .none isBare_nil

theorem IsBare.concat {rest : Bytes} (h : IsBare rest) {b : UInt8} (hcomma : b ≠ comma)
    (hends : endsRecord b = false) (hquote : rest = [] → b ≠ quote) : IsBare (rest ++ [b]) := by
  constructor
  · cases rest with
    | nil => simpa using hquote rfl
    | cons c rest => simpa using h.head?_ne
  · intro c hc
    rcases List.mem_append.mp hc with hc | hc
    · exact h.not_ends c hc
    · obtain rfl := List.mem_singleton.mp hc
      exact ⟨hcomma, hends⟩

theorem modeAfter_ne_quoted (ts us rest : Bytes) : modeAfter ts us rest ≠ .quoted := by
  unfold modeAfter
  split
  · decide
  split
  · decide
  split <;> decide

theorem modeAfter_eq_record_iff {ts us rest : Bytes} :
    modeAfter ts us rest = .record ↔ ts ++ (us ++ rest) = [] := by
  unfold modeAfter
  by_cases hrest : rest = []
  · by_cases hus : us = []
    · by_cases hts : ts = [] <;> simp [hrest, hus, hts]
    · simp [hrest, hus]
  · simp [hrest]

theorem Reads.eq_of_nil {p : Partial} (h : Reads [] p) : p = {} := by
  generalize ht : ([] : Bytes) = t at h
  cases h with
  | inside h f => simp at ht
  | @outside ts us rest f fs h hquoted hbare =>
    obtain ⟨rfl, rfl, rfl⟩ : ts = [] ∧ us = [] ∧ rest = [] := by simpa using ht.symm
    have hfs : fs = [] := by
      generalize hts : ([] : Bytes) = ts at h
      cases h with
      | nil => rfl
      | snoc h hf => simp at hts
    have hf : f = [] := by
      generalize hus : ([] : Bytes) = us at hquoted
      cases hquoted with
      | none => rfl
      | quotes f => simp at hus
    rw [hfs, hf]
    rfl

theorem ne_of_endsRecord {b : UInt8} (h : endsRecord b = true) : b ≠ comma ∧ b ≠ quote := by
  constructor
  · rintro rfl
    exact absurd h (by decide)
  · rintro rfl
    exact absurd h (by decide)

section Steps

variable {mode : Mode} {bytes : Bytes} {fs : List Bytes} {b : UInt8}

theorem step_comma (hmode : mode ≠ .quoted) :
    Partial.step ⟨mode, bytes, fs⟩ comma = (⟨.field, [], bytes.reverse :: fs⟩, false) := by
  have hends : endsRecord comma = false := by decide
  have hquote : (comma == quote) = false := by decide
  cases mode with
  | quoted => exact absurd rfl hmode
  | record => simp [Partial.step, Partial.stepPlain, Partial.endField, hends, hquote]
  | field => simp [Partial.step, Partial.stepPlain, Partial.endField, hquote]
  | plain => simp [Partial.step, Partial.stepPlain, Partial.endField]
  | quoteSeen => simp [Partial.step, Partial.stepPlain, Partial.endField, hquote]

theorem step_end (hmode : mode ≠ .quoted) (hrecord : mode ≠ .record) (hb : endsRecord b = true) :
    Partial.step ⟨mode, bytes, fs⟩ b = (⟨mode, bytes, fs⟩, true) := by
  obtain ⟨hcomma, hquote⟩ := ne_of_endsRecord hb
  cases mode with
  | quoted => exact absurd rfl hmode
  | record => exact absurd rfl hrecord
  | field => simp [Partial.step, Partial.stepPlain, hcomma, hquote, hb]
  | plain => simp [Partial.step, Partial.stepPlain, hcomma, hb]
  | quoteSeen => simp [Partial.step, Partial.stepPlain, hcomma, hquote, hb]

theorem step_bare (hmode : mode ≠ .quoted) (hcomma : b ≠ comma) (hends : endsRecord b = false)
    (hquote : mode ≠ .plain → b ≠ quote) :
    Partial.step ⟨mode, bytes, fs⟩ b = (⟨.plain, b :: bytes, fs⟩, false) := by
  cases mode with
  | quoted => exact absurd rfl hmode
  | plain => simp [Partial.step, Partial.stepPlain, Partial.push, hcomma, hends]
  | record => simp [Partial.step, Partial.stepPlain, Partial.push, hcomma, hends, hquote]
  | field => simp [Partial.step, Partial.stepPlain, Partial.push, hcomma, hends, hquote]
  | quoteSeen => simp [Partial.step, Partial.stepPlain, Partial.push, hcomma, hends, hquote]

theorem step_quote_opens (hmode : mode = .record ∨ mode = .field) :
    Partial.step ⟨mode, bytes, fs⟩ quote = (⟨.quoted, bytes, fs⟩, false) := by
  have hends : endsRecord quote = false := by decide
  rcases hmode with rfl | rfl
  · simp [Partial.step, hends]
  · simp [Partial.step]

theorem step_quoted (hb : b ≠ quote) :
    Partial.step ⟨.quoted, bytes, fs⟩ b = (⟨.quoted, b :: bytes, fs⟩, false) := by
  simp [Partial.step, Partial.push, hb]

theorem step_quote_closes :
    Partial.step ⟨.quoted, bytes, fs⟩ quote = (⟨.quoteSeen, bytes, fs⟩, false) := by
  simp [Partial.step]

theorem step_quote_again :
    Partial.step ⟨.quoteSeen, bytes, fs⟩ quote = (⟨.quoted, quote :: bytes, fs⟩, false) := by
  simp [Partial.step, Partial.push]

end Steps

/-- A byte more: an empty line stays one, a record that ends is one of the grammar, and what else is
read goes on being the front of one. -/
theorem Reads.step {t : Bytes} {p : Partial} (h : Reads t p) (b : UInt8) :
    (t = [] ∧ endsRecord b = true ∧ p.step b = ({}, false)) ∨
      (RecordText t p.finish ∧ endsRecord b = true ∧ p.step b = (p, true)) ∨
      ∃ q, Reads (t ++ [b]) q ∧ p.step b = (q, false) := by
  cases h with
  | @inside ts fs h f =>
    refine .inr (.inr ?_)
    by_cases hb : b = quote
    · subst hb
      refine ⟨_, ?_, step_quote_closes⟩
      simpa [modeAfter] using Reads.outside h (.quotes f) isBare_nil
    · refine ⟨_, ?_, step_quoted hb⟩
      simpa [doubled, hb] using Reads.inside h (f ++ [b])
  | @outside ts us rest f fs h hquoted hbare =>
    have hmode := modeAfter_ne_quoted ts us rest
    by_cases hends : endsRecord b = true
    · by_cases hempty : ts ++ (us ++ rest) = []
      · have hreads := Reads.outside h hquoted hbare
        rw [hempty] at hreads ⊢
        rw [hreads.eq_of_nil]
        exact .inl ⟨rfl, hends, by simp [Partial.step, hends]⟩
      · have hrecord : modeAfter ts us rest ≠ .record :=
          fun hmode => hempty (modeAfter_eq_record_iff.mp hmode)
        refine .inr (.inl ⟨?_, hends, step_end hmode hrecord hends⟩)
        simpa [Partial.finish] using RecordText.intro h (.intro hquoted hbare) hempty
    rw [Bool.not_eq_true] at hends
    refine .inr (.inr ?_)
    by_cases hcomma : b = comma
    · subst hcomma
      refine ⟨_, ?_, step_comma hmode⟩
      simpa [modeAfter] using Reads.outside (.snoc h (.intro hquoted hbare)) .none isBare_nil
    by_cases hquote : rest = [] ∧ b = quote
    · obtain ⟨rfl, rfl⟩ := hquote
      cases hquoted with
      | none =>
        refine ⟨_, ?_, step_quote_opens ?_⟩
        · simpa [doubled] using Reads.inside h []
        · by_cases hts : ts = [] <;> simp [modeAfter, hts]
      | quotes f =>
        have hseen : modeAfter ts (quote :: doubled f ++ [quote]) [] = .quoteSeen := by
          simp [modeAfter]
        rw [hseen]
        refine ⟨_, ?_, step_quote_again⟩
        simpa [doubled] using Reads.inside h (f ++ [quote])
    · have hfirst : rest = [] → b ≠ quote := fun hrest hb => hquote ⟨hrest, hb⟩
      refine ⟨_, ?_, step_bare hmode hcomma hends fun hplain => hfirst ?_⟩
      · simpa [modeAfter] using Reads.outside h hquoted (hbare.concat hcomma hends hfirst)
      · exact Decidable.byContradiction fun hrest => hplain (if_pos hrest)

def fieldsFrom (p : Partial) : Bytes → List (List Bytes)
  | [] => if p.mode = .record then [] else [p.finish]
  | b :: bs =>
    match p.step b with
    | (p, false) => fieldsFrom p bs
    | (p, true) => p.finish :: fieldsFrom {} bs

theorem fields_scan (p : Partial) (start here : Position) (bs : Bytes) :
    (scan p start here bs).map Record.fields = fieldsFrom p bs := by
  induction bs generalizing p start here with
  | nil =>
    simp only [scan, fieldsFrom]
    split <;> rfl
  | cons b bs ih =>
    rcases hstep : p.step b with ⟨q, ended⟩
    cases ended with
    | false => simp only [scan, fieldsFrom, hstep, ih]
    | true => simp only [scan, fieldsFrom, hstep, List.map_cons, ih]

theorem fieldsFrom_next {p q : Partial} {b : UInt8} (h : p.step b = (q, false)) (bs : Bytes) :
    fieldsFrom p (b :: bs) = fieldsFrom q bs := by
  simp only [fieldsFrom, h]

theorem fieldsFrom_end {p q : Partial} {b : UInt8} (h : p.step b = (q, true)) (bs : Bytes) :
    fieldsFrom p (b :: bs) = q.finish :: fieldsFrom {} bs := by
  simp only [fieldsFrom, h]

theorem Reads.tableText_end {t : Bytes} {p : Partial} (h : Reads t p) :
    TableText t (fieldsFrom p []) := by
  cases h with
  | inside h f =>
    simpa [fieldsFrom, Partial.finish] using TableText.unclosed (.intro h f)
  | @outside ts us rest f fs h hquoted hbare =>
    by_cases hempty : ts ++ (us ++ rest) = []
    · have hreads := Reads.outside h hquoted hbare
      rw [hempty] at hreads ⊢
      rw [hreads.eq_of_nil]
      exact .nil
    · have hrecord : modeAfter ts us rest ≠ .record :=
        fun hmode => hempty (modeAfter_eq_record_iff.mp hmode)
      simpa [fieldsFrom, Partial.finish, hrecord] using
        TableText.last (.intro h (.intro hquoted hbare) hempty)

/-- The records that are read behind the front of one are those of the grammar. -/
theorem Reads.tableText {t : Bytes} {p : Partial} (h : Reads t p) (bs : Bytes) :
    TableText (t ++ bs) (fieldsFrom p bs) := by
  induction bs generalizing t p with
  | nil =>
    rw [List.append_nil]
    exact h.tableText_end
  | cons b bs ih =>
    rcases h.step b with ⟨rfl, hends, hstep⟩ | ⟨hrecord, hends, hstep⟩ | ⟨q, hq, hstep⟩
    · rw [fieldsFrom_next hstep]
      exact .blank hends (ih .nil)
    · rw [fieldsFrom_end hstep]
      exact .record hrecord hends (ih .nil)
    · rw [fieldsFrom_next hstep, ← List.singleton_append, ← List.append_assoc]
      exact ih hq

section Texts

variable {mode : Mode} {bytes : Bytes} {fs : List Bytes} {rest : Bytes}

theorem fieldsFrom_doubled (f bytes : Bytes) (fs : List Bytes) (bs : Bytes) :
    fieldsFrom ⟨.quoted, bytes, fs⟩ (doubled f ++ bs) =
      fieldsFrom ⟨.quoted, f.reverse ++ bytes, fs⟩ bs := by
  induction f generalizing bytes with
  | nil => rfl
  | cons b f ih =>
    by_cases hb : b = quote
    · subst hb
      have htwo : doubled (quote :: f) ++ bs = quote :: quote :: (doubled f ++ bs) := by
        simp [doubled]
      rw [htwo, fieldsFrom_next step_quote_closes, fieldsFrom_next step_quote_again, ih]
      simp
    · have hone : doubled (b :: f) ++ bs = b :: (doubled f ++ bs) := by
        simp [doubled, hb]
      rw [hone, fieldsFrom_next (step_quoted hb), ih]
      simp

theorem fieldsFrom_open (hmode : mode = .record ∨ mode = .field) (f bs : Bytes) :
    fieldsFrom ⟨mode, [], fs⟩ (quote :: doubled f ++ bs) =
      fieldsFrom ⟨.quoted, f.reverse, fs⟩ bs := by
  rw [List.cons_append, fieldsFrom_next (step_quote_opens hmode), fieldsFrom_doubled,
    List.append_nil]

theorem fieldsFrom_quotedText {us f : Bytes} (h : QuotedText us f)
    (hmode : mode = .record ∨ mode = .field) (bs : Bytes) :
    fieldsFrom ⟨mode, [], fs⟩ (us ++ bs) =
      fieldsFrom ⟨if us = [] then mode else .quoteSeen, f.reverse, fs⟩ bs := by
  cases h with
  | none => rfl
  | quotes f =>
    rw [if_neg (by simp), List.append_assoc, fieldsFrom_open hmode, List.singleton_append,
      fieldsFrom_next step_quote_closes]

theorem fieldsFrom_plain (h : ∀ b ∈ rest, b ≠ comma ∧ endsRecord b = false) (bs : Bytes) :
    fieldsFrom ⟨.plain, bytes, fs⟩ (rest ++ bs) =
      fieldsFrom ⟨.plain, rest.reverse ++ bytes, fs⟩ bs := by
  induction rest generalizing bytes with
  | nil => rfl
  | cons b rest ih =>
    obtain ⟨hcomma, hends⟩ := h b (by simp)
    rw [List.cons_append, fieldsFrom_next (step_bare (by decide) hcomma hends (absurd rfl)),
      ih fun c hc => h c (by simp [hc])]
    simp

theorem fieldsFrom_isBare (h : IsBare rest) (hmode : mode ≠ .quoted) (bs : Bytes) :
    fieldsFrom ⟨mode, bytes, fs⟩ (rest ++ bs) =
      fieldsFrom ⟨if rest = [] then mode else .plain, rest.reverse ++ bytes, fs⟩ bs := by
  cases rest with
  | nil => rfl
  | cons b rest =>
    obtain ⟨hcomma, hends⟩ := h.not_ends b (by simp)
    have hquote : b ≠ quote := by simpa using h.head?_ne
    rw [List.cons_append, fieldsFrom_next (step_bare hmode hcomma hends fun _ => hquote),
      fieldsFrom_plain fun c hc => h.not_ends c (by simp [hc])]
    simp

theorem mode_of_begin (ts : Bytes) : (if ts = [] then Mode.record else .field) = .record ∨
    (if ts = [] then Mode.record else .field) = .field := by
  by_cases hts : ts = [] <;> simp [hts]

theorem fieldsFrom_field {ts us f : Bytes} (hquoted : QuotedText us f) (hbare : IsBare rest)
    (bs : Bytes) :
    fieldsFrom ⟨if ts = [] then .record else .field, [], fs⟩ (us ++ rest ++ bs) =
      fieldsFrom ⟨modeAfter ts us rest, (f ++ rest).reverse, fs⟩ bs := by
  have hbetween : (if us = [] then if ts = [] then Mode.record else .field else .quoteSeen) ≠
      .quoted := by
    by_cases hus : us = [] <;> by_cases hts : ts = [] <;> simp [hus, hts]
  rw [List.append_assoc, fieldsFrom_quotedText hquoted (mode_of_begin ts),
    fieldsFrom_isBare hbare hbetween, ← List.reverse_append]
  simp [modeAfter]

theorem fieldsFrom_fieldsText {ts : Bytes} (h : FieldsText ts fs) (bs : Bytes) :
    fieldsFrom {} (ts ++ bs) =
      fieldsFrom ⟨if ts = [] then .record else .field, [], fs.reverse⟩ bs := by
  induction h generalizing bs with
  | nil => rfl
  | snoc h hf ih =>
    obtain ⟨hquoted, hbare⟩ := hf
    rw [List.append_assoc, List.append_assoc, ih, fieldsFrom_field hquoted hbare,
      List.singleton_append, fieldsFrom_next (step_comma (modeAfter_ne_quoted _ _ _))]
    simp

end Texts

theorem Reads.fieldsFrom {t : Bytes} {p : Partial} (h : Reads t p) (bs : Bytes) :
    Csv.fieldsFrom {} (t ++ bs) = Csv.fieldsFrom p bs := by
  cases h with
  | outside h hquoted hbare =>
    rw [List.append_assoc, fieldsFrom_fieldsText h, fieldsFrom_field hquoted hbare]
  | inside h f =>
    rw [List.append_assoc, fieldsFrom_fieldsText h, fieldsFrom_open (mode_of_begin _)]

theorem RecordText.reads {t : Bytes} {r : List Bytes} (h : RecordText t r) :
    ∃ p, Reads t p ∧ p.finish = r ∧ p.mode ≠ .quoted ∧ p.mode ≠ .record := by
  obtain ⟨h, ⟨hquoted, hbare⟩, hne⟩ := h
  exact ⟨_, .outside h hquoted hbare, by simp [Partial.finish],
    modeAfter_ne_quoted _ _ _, fun hmode => hne (modeAfter_eq_record_iff.mp hmode)⟩

theorem fieldsFrom_of_tableText {bs : Bytes} {rs : List (List Bytes)} (h : TableText bs rs) :
    fieldsFrom {} bs = rs := by
  induction h with
  | nil => rfl
  | blank hb h ih =>
    rw [fieldsFrom_next (q := {}) (by simp [Partial.step, hb]), ih]
  | record hr hb h ih =>
    obtain ⟨p, hreads, rfl, hquoted, hrecord⟩ := hr.reads
    rw [hreads.fieldsFrom, fieldsFrom_end (step_end hquoted hrecord hb), ih]
  | last hr =>
    obtain ⟨p, hreads, rfl, hquoted, hrecord⟩ := hr.reads
    have hread := hreads.fieldsFrom []
    rw [List.append_nil] at hread
    rw [hread, fieldsFrom, if_neg hrecord]
  | unclosed hr =>
    obtain ⟨h, f⟩ := hr
    have hread := (Reads.inside h f).fieldsFrom []
    rw [List.append_nil] at hread
    rw [hread]
    simp [fieldsFrom, Partial.finish]

/-- The records of a table are those of the grammar. -/
theorem fieldsFrom_eq_iff {bs : Bytes} {rs : List (List Bytes)} :
    fieldsFrom {} bs = rs ↔ TableText bs rs := by
  constructor
  · rintro rfl
    exact Reads.nil.tableText bs
  · exact fieldsFrom_of_tableText

theorem records_eq_scan {bs : Bytes} (h : ¬ byteOrderMark <+: bs) :
    records bs = scan {} {} {} bs := by
  unfold records
  split
  · exact absurd ⟨_, rfl⟩ h
  · rfl

/-- A file has the records of the grammar, and no others. -/
theorem fields_records_eq_iff {bs : Bytes} {rs : List (List Bytes)} :
    (records bs).map Record.fields = rs ↔ FileText bs rs := by
  by_cases hmark : byteOrderMark <+: bs
  · obtain ⟨bs, rfl⟩ := hmark
    have hrecords : records (byteOrderMark ++ bs) = scan {} {} { byte := 3 } bs := rfl
    rw [hrecords, fields_scan, fieldsFrom_eq_iff]
    constructor
    · exact .marked
    · intro h
      generalize hbs : byteOrderMark ++ bs = file at h
      cases h with
      | marked h => exact List.append_cancel_left hbs ▸ h
      | plain hmark h => exact absurd ⟨bs, hbs⟩ hmark
  · rw [records_eq_scan hmark, fields_scan, fieldsFrom_eq_iff]
    constructor
    · exact .plain hmark
    · intro h
      cases h with
      | marked h => exact absurd ⟨_, rfl⟩ hmark
      | plain _ h => exact h

end Csv
end LinkShelf
