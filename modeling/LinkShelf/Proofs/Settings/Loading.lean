import LinkShelf.Proofs.Host.Contents
import LinkShelf.Proofs.Host.Journal
import LinkShelf.Proofs.Outcome
import LinkShelf.Proofs.Settings.Document
import LinkShelf.Proofs.Settings.Initial
import LinkShelf.Proofs.Settings.Writing
import LinkShelf.Proofs.Store.LinkFile
import LinkShelf.Proofs.Text.Items
import Mathlib.Data.List.TakeWhile

/-! Loading settings. A load that fails leaves all files as they are. One that succeeds gives valid
settings, those that the file tells, and leaves the file as these settings are written; it writes the
file only if that is not how they were written. -/
namespace LinkShelf
namespace Settings

variable {s : Settings} {path base : String} {bs : Bytes}

/-- What settings must be to be accepted. -/
structure IsValid (s : Settings) : Prop where
  path_not_blank : ∃ c ∈ s.linksPath.toList, Text.isWhite c = false
  limit_ne_zero : s.defaultLimit ≠ some 0

theorem trim_eq_empty_iff {text : String} :
    Text.trim text = "" ↔ ∀ c ∈ text.toList, Text.isWhite c = true := by
  have hempty : Text.trim text = "" ↔ Text.strip Text.isWhite text.toList = [] := by
    rw [Text.trim, ← String.toList_inj, String.toList_ofList, String.toList_empty]
  rw [hempty, ← List.dropWhile_eq_nil_iff, Text.strip]
  constructor
  · intro h
    -- the first character that is not white is still there at the end
    cases hrest : text.toList.dropWhile Text.isWhite with
    | nil => rfl
    | cons c cs =>
      have hhead : c ∈ (text.toList.dropWhile Text.isWhite).head? := by
        rw [hrest]
        rfl
      have hc := Text.head?_dropWhile c hhead
      rw [List.reverse_eq_nil_iff, List.dropWhile_eq_nil_iff, hrest] at h
      rw [h c (by simp)] at hc
      cases hc
  · intro h
    rw [h]
    rfl

theorem validate_eq (s : Settings) : s.validate =
    if s.linksPath.toList.all Text.isWhite = true then .error .blankLinksPath
    else if s.defaultLimit = some 0 then .error .zeroLimit else .ok () := by
  simp only [validate, trim_eq_empty_iff, List.all_eq_true]

theorem not_blank_iff : ¬ s.linksPath.toList.all Text.isWhite = true ↔
    ∃ c ∈ s.linksPath.toList, Text.isWhite c = false := by
  simp

theorem validate_eq_ok_iff : s.validate = .ok () ↔ s.IsValid := by
  rw [validate_eq]
  split
  · rename_i hblank
    exact iff_of_false (by simp) fun h => not_blank_iff.mpr h.path_not_blank hblank
  rename_i hpath
  split
  · rename_i hzero
    exact iff_of_false (by simp) fun h => h.limit_ne_zero hzero
  · rename_i hlimit
    exact iff_of_true rfl ⟨not_blank_iff.mp hpath, hlimit⟩

def TellsIn (bs : Bytes) (s : Settings) : Prop :=
  ∃ text d, Utf8.decode? bs = some text ∧ Yaml.read text = some d ∧ Tells d s

/-- Why the bytes of a file are refused. -/
inductive IsRefused (path : String) (bs : Bytes) : SettingsError → Prop
  | notText (h : Utf8.decode? bs = none) : IsRefused path bs (.notText path)
  | malformed {text : String} (htext : Utf8.decode? bs = some text)
    (h : ∀ s, ¬ TellsIn bs s) : IsRefused path bs .malformed
  | blankLinksPath {s : Settings} (h : TellsIn bs s)
    (hblank : ∀ c ∈ s.linksPath.toList, Text.isWhite c = true) : IsRefused path bs .blankLinksPath
  | zeroLimit {s : Settings} (h : TellsIn bs s)
    (hpath : ∃ c ∈ s.linksPath.toList, Text.isWhite c = false)
    (hzero : s.defaultLimit = some 0) : IsRefused path bs .zeroLimit

theorem ofBytes_of_told (h : TellsIn bs s) : ofBytes path bs = s.validate.map fun _ => s := by
  obtain ⟨text, d, htext, hread, htells⟩ := h
  simp only [ofBytes, htext, parse_eq_some_iff.mpr ⟨d, hread, htells⟩]

theorem exists_told_of_parse {text : String} (htext : Utf8.decode? bs = some text)
    (h : parse text = some s) : TellsIn bs s := by
  obtain ⟨d, hread, htells⟩ := parse_eq_some_iff.mp h
  exact ⟨text, d, htext, hread, htells⟩

/-- Bytes are settings as they tell them, or are refused for one reason. -/
theorem ofBytes_cases (path : String) (bs : Bytes) :
    (∃ s, ofBytes path bs = .ok s ∧ TellsIn bs s ∧ s.IsValid) ∨
    ∃ err, ofBytes path bs = .error err ∧ IsRefused path bs err := by
  cases htext : Utf8.decode? bs with
  | none => exact .inr ⟨_, by simp only [ofBytes, htext], .notText htext⟩
  | some text =>
    cases hparse : parse text with
    | none =>
      refine .inr ⟨_, by simp only [ofBytes, htext, hparse], .malformed htext ?_⟩
      rintro s ⟨text', d, htext', hread, htells⟩
      rw [htext] at htext'
      cases htext'
      rw [parse_eq_some_iff.mpr ⟨d, hread, htells⟩] at hparse
      cases hparse
    | some s =>
      have htold := exists_told_of_parse htext hparse
      rw [ofBytes_of_told htold, validate_eq]
      split
      · rename_i hblank
        exact .inr ⟨_, rfl, .blankLinksPath htold (List.all_eq_true.mp hblank)⟩
      rename_i hpath
      split
      · rename_i hzero
        exact .inr ⟨_, rfl, .zeroLimit htold (not_blank_iff.mp hpath) hzero⟩
      · rename_i hlimit
        exact .inl ⟨s, rfl, htold, not_blank_iff.mp hpath, hlimit⟩

theorem ofBytes_eq_ok_iff : ofBytes path bs = .ok s ↔ TellsIn bs s ∧ s.IsValid := by
  constructor
  · intro h
    rcases ofBytes_cases path bs with ⟨s', hs', htold, hvalid⟩ | ⟨err, herr, -⟩
    · rw [h] at hs'
      cases hs'
      exact ⟨htold, hvalid⟩
    · rw [h] at herr
      cases herr
  · rintro ⟨htold, hvalid⟩
    rw [ofBytes_of_told htold, validate_eq_ok_iff.mpr hvalid]
    rfl

theorem ofBytes_eq_error_iff {err : SettingsError} :
    ofBytes path bs = .error err ↔ IsRefused path bs err := by
  constructor
  · intro h
    rcases ofBytes_cases path bs with ⟨s, hs, -⟩ | ⟨err', herr, hrefused⟩
    · rw [h] at hs
      cases hs
    · rw [h] at herr
      cases herr
      exact hrefused
  · intro h
    cases h with
    | notText h => simp only [ofBytes, h]
    | malformed htext h =>
      rename_i text
      have hparse : parse text = none := by
        refine Option.eq_none_iff_forall_ne_some.mpr fun s hs => ?_
        exact h s (exists_told_of_parse htext hs)
      simp only [ofBytes, htext, hparse]
    | blankLinksPath h hblank =>
      rw [ofBytes_of_told h, validate_eq, if_pos (List.all_eq_true.mpr hblank)]
      rfl
    | zeroLimit h hpath hzero =>
      rw [ofBytes_of_told h, validate_eq, if_neg (not_blank_iff.mpr hpath), if_pos hzero]
      rfl

/-! The run of a load, on the machine and in the journal. -/

theorem follows_save (s : Settings) :
    Journal.Follows (save (m := StateM Journal) base s) (save (m := StateM Machine) base s) :=
  .bind (.writeFile _ _) fun _ => .pure _

theorem follows_ensureFile :
    Journal.Follows (ensureFile (m := StateM Journal) path) (ensureFile (m := StateM Machine) path) := by
  refine .bind (.status _) fun r => ?_
  rcases r with err | u
  · exact .bind (.writeFile _ _) fun _ => .pure _
  · exact .pure _

theorem follows_load :
    Journal.Follows (load (m := StateM Journal) base) (load (m := StateM Machine) base) := by
  refine .bind (.makeDirectories _) fun made => ?_
  rcases made with err | u
  · exact .pure _
  refine .bind follows_ensureFile fun ensured => ?_
  rcases ensured with err | u
  · exact .pure _
  refine .bind (.readFile _) fun contents => ?_
  rcases contents with err | bs
  · exact .pure _
  simp only
  rcases ofBytes (filePath base) bs with err | s
  · exact .pure _
  simp only
  split
  · exact .pure _
  · exact .bind (follows_save s) fun _ => .pure _

variable {d e : Machine}

theorem contentAt?_of_load_error {err : SettingsError}
    (h : (load (m := StateM Machine) base).run d = (.error err, e)) (q : Place) :
    e.contentAt? q = d.contentAt? q := by
  have hmakes := Machine.contentAt?_makeDirectories d base q
  rw [run_load] at h
  cases hmake : d.makeDirectories base with
  | mk made d₁ =>
    rw [hmake] at h hmakes
    rcases made with err' | u
    · cases h
      exact hmakes
    simp only [run_ensureFile] at h
    cases hstatus : d₁.status (filePath base) with
    | ok u =>
      simp only [hstatus] at h
      split at h
      · cases h
        exact hmakes
      rename_i bs hread
      split at h
      · cases h
        exact hmakes
      -- a file that was read can be written
      obtain ⟨p, hplace⟩ := Machine.locateFile_of_readFile hread
      split at h
      · cases h
      · rw [run_save, Machine.writeFile_of_locateFile hplace] at h
        cases h
    | error err' =>
      simp only [hstatus] at h
      cases hplace : d₁.locateFile (filePath base) with
      | error err'' =>
        simp only [Machine.writeFile, hplace] at h
        cases h
        exact hmakes
      | ok p =>
        rw [Machine.writeFile_of_locateFile hplace] at h
        simp only [Except.mapError, Machine.readFile_set hplace, ofBytes_initial, if_true] at h
        cases h

section Journal

variable {j : Journal}

theorem run_load_of_file (hmake : j.machine.makeDirectories base = (.ok (), d))
    (hread : d.readFile (filePath base) = .ok bs) :
    (load (m := StateM Journal) base).run j =
      match ofBytes (filePath base) bs with
      | .error err => (.error err, j.after d)
      | .ok s =>
        (.ok s,
          if bs = s.bytes then j.after d else (j.after d).afterWrite (filePath base) s.bytes) := by
  have hensure : (ensureFile (m := StateM Journal) (filePath base)).run (j.after d) =
      (.ok (), j.after d) := by
    have hstatus : (j.after d).machine.status (filePath base) = .ok () :=
      Machine.status_of_readFile hread
    rw [ensureFile, run_bind (Journal.run_status hstatus)]
    rfl
  have hcontents : (j.after d).machine.readFile (filePath base) = .ok bs := hread
  rw [load, run_bind (Journal.run_makeDirectories hmake)]
  simp only
  rw [run_bind hensure]
  simp only
  rw [run_bind (Journal.run_readFile hcontents)]
  simp only
  rcases ofBytes (filePath base) bs with err | s
  · rfl
  simp only
  split
  · rfl
  · -- a file that was read can be written
    obtain ⟨p, hplace⟩ := Machine.locateFile_of_readFile hread
    have hwrite : (j.after d).machine.writeFile (filePath base) s.bytes = (.ok (), _) :=
      Machine.writeFile_of_locateFile hplace _
    rw [save, bind_assoc, run_bind (Journal.run_writeFile hwrite)]
    rfl

theorem run_load_of_none {p : Place} (hmake : j.machine.makeDirectories base = (.ok (), d))
    (hlocate : d.locate (filePath base) = .ok p) (hnone : d.lookUp p = none) :
    (load (m := StateM Journal) base).run j =
      (.ok {}, (j.after d).afterWrite (filePath base) ({} : Settings).bytes) := by
  have hplace : d.locateFile (filePath base) = .ok p :=
    Machine.locateFile_of_locate hlocate (by simp [hnone])
  have hwrite : (j.after d).machine.writeFile (filePath base) ({} : Settings).bytes =
      (.ok (), d.set p (some (.file ({} : Settings).bytes))) :=
    Machine.writeFile_of_locateFile hplace _
  have hensure : (ensureFile (m := StateM Journal) (filePath base)).run (j.after d) =
      (.ok (), (j.after d).afterWrite (filePath base) ({} : Settings).bytes) := by
    have hstatus : (j.after d).machine.status (filePath base) = .error .notFound :=
      Machine.status_of_lookUp_none hlocate hnone
    rw [ensureFile, run_bind (Journal.run_status hstatus)]
    simp only
    rw [run_bind (Journal.run_writeFile hwrite)]
    rfl
  have hcontents : ((j.after d).afterWrite (filePath base)
      ({} : Settings).bytes).machine.readFile (filePath base) = .ok ({} : Settings).bytes :=
    Journal.readFile_afterWrite hplace _
  rw [load, run_bind (Journal.run_makeDirectories hmake)]
  simp only
  rw [run_bind hensure]
  simp only
  rw [run_bind (Journal.run_readFile hcontents)]
  simp only [ofBytes_initial, if_true]
  rfl

end Journal

variable {r : Except SettingsError Settings} {written : List (String × Bytes)}

/-- A file that is there is refused for one reason, without anything being written, or it gives the
valid settings that it tells, and is written if it does not hold what is written for them. -/
theorem load_of_file {d' : Machine} (hmake : d.makeDirectories base = (.ok (), d'))
    (hread : d'.readFile (filePath base) = .ok bs)
    (h : (load (m := StateM Journal) base).run { machine := d } =
      (r, { machine := e, written := written })) :
    r = ofBytes (filePath base) bs ∧
    (∀ err, r = .error err → e.readFile (filePath base) = .ok bs ∧ written = []) ∧
    ∀ s, r = .ok s → e.readFile (filePath base) = .ok s.bytes ∧
      written = if bs = s.bytes then [] else [(filePath base, s.bytes)] := by
  have hrun := run_load_of_file (j := { machine := d }) hmake hread
  rw [h] at hrun
  cases hbytes : ofBytes (filePath base) bs with
  | error err =>
    rw [hbytes] at hrun
    cases hrun
    exact ⟨rfl, fun _ _ => ⟨hread, rfl⟩, fun s hs => (by cases hs)⟩
  | ok s =>
    rw [hbytes] at hrun
    obtain rfl : r = .ok s := congrArg Prod.fst hrun
    have hjournal := congrArg Prod.snd hrun
    simp only at hjournal
    refine ⟨rfl, fun err herr => (by cases herr), fun s' hs' => ?_⟩
    cases hs'
    split at hjournal
    · rename_i hsame
      cases hjournal
      rw [if_pos hsame]
      exact ⟨hsame ▸ hread, rfl⟩
    · rename_i hdiffers
      cases hjournal
      rw [if_neg hdiffers]
      obtain ⟨p, hplace⟩ := Machine.locateFile_of_readFile hread
      exact ⟨Journal.readFile_afterWrite (j := { machine := d' }) hplace _, rfl⟩

/-- A load that fails leaves every file as it is. A file that is there is refused for one reason,
without anything being written, or it gives the valid settings that it tells, and holds what is written
for them; it was written only if it held something else. Where no file is, the defaults are written and
are the answer. -/
theorem load_normalizes (h : (load (m := StateM Journal) base).run { machine := d } =
      (r, { machine := e, written := written })) :
    (load (m := StateM Machine) base).run d = (r, e) ∧
    (∀ err, r = .error err → ∀ q, e.contentAt? q = d.contentAt? q) ∧
    (∀ d' bs, d.makeDirectories base = (.ok (), d') → d'.readFile (filePath base) = .ok bs →
      (∀ s, r = .ok s ↔ TellsIn bs s ∧ s.IsValid) ∧
      (∀ err, r = .error err ↔ IsRefused (filePath base) bs err) ∧
      (∀ err, r = .error err → e.readFile (filePath base) = .ok bs ∧ written = []) ∧
      ∀ s, r = .ok s → e.readFile (filePath base) = .ok s.bytes ∧
        written = if bs = s.bytes then [] else [(filePath base, s.bytes)]) ∧
    ∀ d' p, d.makeDirectories base = (.ok (), d') → d'.locate (filePath base) = .ok p →
      d'.lookUp p = none → r = .ok {} ∧
        e.readFile (filePath base) = .ok ({} : Settings).bytes ∧
        written = [(filePath base, ({} : Settings).bytes)] := by
  have hmachine := follows_load.run h
  refine ⟨hmachine, ?_, ?_, ?_⟩
  · rintro err rfl
    exact contentAt?_of_load_error hmachine
  · intro d' bs hmake hread
    obtain ⟨rfl, hfailed, hloaded⟩ := load_of_file hmake hread h
    exact ⟨fun s => ofBytes_eq_ok_iff, fun err => ofBytes_eq_error_iff, hfailed, hloaded⟩
  · intro d' p hmake hlocate hnone
    have hrun := run_load_of_none (j := { machine := d }) hmake hlocate hnone
    rw [h] at hrun
    cases hrun
    have hplace : d'.locateFile (filePath base) = .ok p :=
      Machine.locateFile_of_locate hlocate (by simp [hnone])
    exact ⟨rfl, Journal.readFile_afterWrite (j := { machine := d' }) hplace _, rfl⟩

/-- A file that names one field of three. -/
def partialText : String := "default_limit: 20\n"

def partialSettings : Settings := { defaultLimit := some 20 }

def withPartial : Machine :=
  LinkFile.oneDirectory.set ["shelf", "config.yaml"] (some (.file (Utf8.encodeString partialText)))

theorem partialText_tells : TellsIn (Utf8.encodeString partialText) partialSettings := by
  have hdecode : Utf8.decode? (Utf8.encodeString partialText) = some partialText := by
    rw [Utf8.encodeString, Utf8.decode?, Utf8.decode_encode]
    rfl
  have hlimit : Yaml.Layout.IsValue ['2', '0', '\n'] .plain "20".toList :=
    @Yaml.Layout.isValue_alphanum ['2', '0'] (by decide) (List.all_eq_true.mp rfl)
  have hlines := Yaml.Lines.cons (e := ⟨"default_limit", .plain, "20"⟩)
    (isName_field "default_limit" (by simp)) hlimit (List.all_eq_true.mp rfl) .nil
  have hread : Yaml.read partialText = some (some
      { root := .mapping [(.scalar { text := "default_limit" }, .scalar { text := "20" })] }) :=
    Yaml.read_of_lines hlines (by simp)
  have hparse : parse partialText = some partialSettings := by
    rw [parse, hread]
    rfl
  exact exists_told_of_parse hdecode hparse

theorem partialText_differs : Utf8.encodeString partialText ≠ partialSettings.bytes := by
  intro heq
  have hdecoded : Utf8.decode (Utf8.encode partialText.toList) =
      Utf8.decode (Utf8.encode partialSettings.render.toList) := congrArg Utf8.decode heq
  rw [Utf8.decode_encode, Utf8.decode_encode, toList_render] at hdecoded
  have hfirst := congrArg List.head? (Except.ok.inj hdecoded)
  exact absurd hfirst (by decide)

theorem load_normalizes_partial :
    ∃ e, (load (m := StateM Journal) "shelf").run { machine := withPartial } =
        (.ok partialSettings,
          { machine := e, written := [("shelf/config.yaml", partialSettings.bytes)] }) ∧
      e.readFile "shelf/config.yaml" = .ok partialSettings.bytes := by
  have hpath : filePath "shelf" = "shelf/config.yaml" := by decide +kernel
  have hmake : withPartial.makeDirectories "shelf" = (.ok (), withPartial) := rfl
  have hread : withPartial.readFile (filePath "shelf") =
      .ok (Utf8.encodeString partialText) := by
    rw [hpath]
    exact Machine.readFile_eq_ok.mpr ⟨["shelf", "config.yaml"], rfl, rfl⟩
  have hvalid : partialSettings.IsValid := ⟨⟨'l', by decide⟩, by decide⟩
  obtain ⟨r, ⟨e, written⟩, hrun⟩ : ∃ r j, (load (m := StateM Journal) "shelf").run
      { machine := withPartial } = (r, j) := ⟨_, _, rfl⟩
  obtain ⟨-, -, hfile, -⟩ := load_normalizes hrun
  obtain ⟨hloads, -, -, hwritten⟩ := hfile _ _ hmake hread
  obtain rfl := (hloads partialSettings).mpr ⟨partialText_tells, hvalid⟩
  obtain ⟨hholds, rfl⟩ := hwritten _ rfl
  rw [if_neg partialText_differs, hpath] at hrun
  exact ⟨e, hrun, hpath ▸ hholds⟩

end Settings
end LinkShelf
