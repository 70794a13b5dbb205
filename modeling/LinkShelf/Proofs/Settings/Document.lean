import LinkShelf.Settings

/-! What settings a text tells. A field that is there has the value that is written, one that is not has
its default, and a text that tells nothing is malformed. -/
namespace LinkShelf
namespace Yaml
namespace Document

variable {α : Type} {d : Document} {entries : List (Node × Node)} {name : String}
  {read : Scalar → Option α} {default v : α}

def Names (d : Document) (key : Node) (name : String) : Prop :=
  ∃ s, d.scalar? key = some s ∧ s.text = name

/-- The value that a mapping gives to a field: what its only entry of that name is read as, or the
default if it has none. -/
inductive Gives (d : Document) (entries : List (Node × Node)) (name : String)
    (read : Scalar → Option α) (default : α) : α → Prop
  | missing (h : ∀ e ∈ entries, ¬ d.Names e.1 name) : Gives d entries name read default default
  | written {front back : List (Node × Node)} {key value : Node} {s : Scalar} {v : α}
    (hentries : entries = front ++ (key, value) :: back) (hkey : d.Names key name)
    (honly : ∀ e ∈ front ++ back, ¬ d.Names e.1 name) (hvalue : d.scalar? value = some s)
    (hread : read s = some v) : Gives d entries name read default v

theorem names_iff {key : Node} : (d.scalar? key).any (·.text == name) = true ↔ d.Names key name := by
  cases h : d.scalar? key <;> simp [Names, h]

theorem field?_eq_some_iff :
    d.field? entries name read default = some v ↔ d.Gives entries name read default v := by
  have hnot : ∀ {es : List (Node × Node)}, (∀ e ∈ es, ¬ (d.scalar? e.1).any (·.text == name) = true) ↔
      ∀ e ∈ es, ¬ d.Names e.1 name := by
    intro es
    simp only [names_iff]
  unfold field? valuesOf
  constructor
  · intro h
    split at h
    · rename_i hnone
      cases h
      exact .missing (hnot.mp (List.filter_eq_nil_iff.mp (List.map_eq_nil_iff.mp hnone)))
    · rename_i value hone
      obtain ⟨⟨key, value'⟩, rest, hfilter, rfl, hrest⟩ := List.map_eq_cons_iff.mp hone
      rw [List.map_eq_nil_iff.mp hrest] at hfilter
      obtain ⟨front, back, hentries, hfront, hkey, hback⟩ := List.filter_eq_cons_iff.mp hfilter
      obtain ⟨s, hs, hread⟩ := Option.bind_eq_some_iff.mp h
      refine .written hentries (names_iff.mp hkey) ?_ hs hread
      intro e he
      rcases List.mem_append.mp he with he | he
      · exact hnot.mp hfront e he
      · exact hnot.mp (List.filter_eq_nil_iff.mp hback) e he
    · cases h
  · rintro (hmissing | ⟨hentries, hkey, honly, hvalue, hread⟩)
    · rw [List.filter_eq_nil_iff.mpr (hnot.mpr hmissing)]
      rfl
    · rename_i front back key value s
      have hfront := List.filter_eq_nil_iff.mpr
        (hnot.mpr fun e he => honly e (List.mem_append_left back he))
      have hback := List.filter_eq_nil_iff.mpr
        (hnot.mpr fun e he => honly e (List.mem_append_right front he))
      have hnamed := names_iff.mpr hkey
      rw [hentries, List.filter_append, hfront, List.filter_cons]
      simp only [hnamed, if_true, hback]
      simp [hvalue, hread]

end Document
end Yaml

namespace Settings

open Yaml (Document)

/-- The settings that a document tells, if there is one. An empty document tells of no field. -/
inductive Tells : Option Document → Settings → Prop
  | nothing : Tells none {}
  | empty {d : Document} {s : Yaml.Scalar} (hroot : d.root = .scalar s) (hplain : s.style = .plain)
    (htext : s.text = "") : Tells (some d) {}
  | mapping {d : Document} {entries : List (Yaml.Node × Yaml.Node)} {s : Settings}
    (hroot : d.root = .mapping entries) (hkeys : ∀ e ∈ entries, ∃ name, d.Names e.1 name)
    (hpath : d.Gives entries "links_path" (fun v => some v.text)
      ({} : Settings).linksPath s.linksPath)
    (hlimit : d.Gives entries "default_limit" (fun v => v.optionalUInt64?)
      ({} : Settings).defaultLimit s.defaultLimit)
    (hfallback : d.Gives entries "literal_fallback" (fun v => v.bool?)
      ({} : Settings).literalFallback s.literalFallback) : Tells (some d) s

variable {s : Settings} {text : String}

theorem ofDocument_eq_some_iff {d : Document} : ofDocument d = some s ↔ Tells (some d) s := by
  unfold ofDocument
  constructor
  · intro h
    split at h
    · rename_i entries hroot
      split at h
      · rename_i hkeys
        simp only [bind, Option.bind_eq_some_iff] at h
        obtain ⟨path, hpath, limit, hlimit, fallback, hfallback, hs⟩ := h
        cases hs
        refine .mapping hroot (fun e he => ?_) (Document.field?_eq_some_iff.mp hpath)
          (Document.field?_eq_some_iff.mp hlimit) (Document.field?_eq_some_iff.mp hfallback)
        obtain ⟨k, hk⟩ := Option.isSome_iff_exists.mp (List.all_eq_true.mp hkeys e he)
        exact ⟨k.text, k, hk, rfl⟩
      · cases h
    · rename_i v hroot
      split at h
      · rename_i hempty
        cases h
        simp only [Bool.and_eq_true, beq_iff_eq, String.isEmpty_iff] at hempty
        exact .empty hroot hempty.1 hempty.2
      · cases h
    · cases h
  · rintro (_ | ⟨hroot, hplain, htext⟩ | ⟨hroot, hkeys, hpath, hlimit, hfallback⟩)
    · rw [hroot]
      simp [hplain, htext]
    · rename_i entries
      have hall : (entries.all fun e => (d.scalar? e.1).isSome) = true := by
        refine List.all_eq_true.mpr fun e he => ?_
        obtain ⟨name, k, hk, -⟩ := hkeys e he
        rw [hk]
        rfl
      rw [hroot]
      simp only [hall, if_true, bind, Option.bind_eq_some_iff]
      exact ⟨_, Document.field?_eq_some_iff.mpr hpath, _, Document.field?_eq_some_iff.mpr hlimit,
        _, Document.field?_eq_some_iff.mpr hfallback, rfl⟩

/-- A text is read exactly as the settings that its document tells. -/
theorem parse_eq_some_iff : parse text = some s ↔ ∃ d, Yaml.read text = some d ∧ Tells d s := by
  unfold parse
  cases hread : Yaml.read text with
  | none => simp
  | some d =>
    cases d with
    | none =>
      constructor
      · intro h
        cases h
        exact ⟨none, rfl, .nothing⟩
      · rintro ⟨d, hd, htells⟩
        cases hd
        cases htells
        rfl
    | some d =>
      constructor
      · intro h
        exact ⟨some d, rfl, ofDocument_eq_some_iff.mp h⟩
      · rintro ⟨d', hd, htells⟩
        cases hd
        exact ofDocument_eq_some_iff.mpr htells

end Settings
end LinkShelf
