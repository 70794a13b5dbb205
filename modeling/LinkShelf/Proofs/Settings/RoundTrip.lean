import LinkShelf.Proofs.Settings.Writing
import LinkShelf.Proofs.Text.Utf8
import LinkShelf.Proofs.Yaml.Mapping
import LinkShelf.Proofs.Yaml.Number

/-! Settings are read back as they were written. -/
namespace LinkShelf
namespace Settings

variable (s : Settings)

def entries (style : Yaml.Style) (s : Settings) : List Yaml.Entry :=
  [⟨"links_path", style, s.linksPath⟩,
    ⟨"default_limit", .plain, String.ofList (limitText s.defaultLimit)⟩,
    ⟨"literal_fallback", .plain, String.ofList (fallbackText s.literalFallback)⟩]

theorem isAlphanum_limitText (limit : Option UInt64) :
    ∀ c ∈ limitText limit, c.isAlphanum = true := by
  cases limit with
  | none => exact List.all_eq_true.mp rfl
  | some n =>
    intro c hc
    have hdigit : c.isDigit = true := Text.isDigit_toDigits hc
    simp [Char.isAlphanum, hdigit]

theorem isAlphanum_fallbackText (b : Bool) : ∀ c ∈ fallbackText b, c.isAlphanum = true := by
  cases b <;> exact List.all_eq_true.mp rfl

theorem limitText_ne_nil (limit : Option UInt64) : limitText limit ≠ [] := by
  cases limit with
  | none => decide
  | some n => exact Nat.toDigits_ne_nil

theorem fallbackText_ne_nil (b : Bool) : fallbackText b ≠ [] := by
  cases b <;> decide

theorem isName_field :
    ∀ name ∈ ["links_path", "default_limit", "literal_fallback"], Yaml.IsName name.toList := by
  have hall : ∀ name ∈ ["links_path", "default_limit", "literal_fallback"],
      name.toList ≠ [] ∧ name.toList.all (!Yaml.isSpacing ·) = true ∧
        name.toList.head? ≠ some '#' ∧ name.toList.getLast? ≠ some ':' ∧
          name.toList.head?.all Char.isAlpha = true ∧ name.toList.length ≤ 1024 ∧
            name.toList.all Yaml.isAllowed = true := by decide
  intro name hname
  obtain ⟨hne, hdark, hhead, hlast, hletter, hshort, hallowed⟩ := hall name hname
  simp only [List.all_eq_true, Bool.not_eq_true'] at hdark hallowed
  refine ⟨⟨hne, hdark, hhead, hlast⟩, fun c hc => ?_, hshort, hallowed⟩
  rwa [Option.mem_def.mp hc] at hletter

theorem lines_render : ∃ style, Yaml.Lines s.render.toList (s.entries style) := by
  obtain ⟨style, hpath⟩ := Yaml.Layout.isValue_writeText s.linksPath
  have hword : ∀ {cs : List Char}, cs ≠ [] → (∀ c ∈ cs, c.isAlphanum = true) →
      Yaml.Layout.IsValue (cs ++ ['\n']) .plain (String.ofList cs).toList := by
    intro cs hne hcs
    rw [String.toList_ofList]
    exact Yaml.Layout.isValue_alphanum hne hcs
  have hallowed : ∀ {cs : List Char}, (∀ c ∈ cs, c.isAlphanum = true) →
      ∀ c ∈ cs ++ ['\n'], Yaml.isAllowed c = true := by
    intro cs hcs
    exact List.forall_mem_append.mpr
      ⟨fun c hc => Yaml.isAllowed_of_isAlphanum (hcs c hc), List.all_eq_true.mp rfl⟩
  have hfallback := Yaml.Lines.cons
    (e := ⟨"literal_fallback", .plain, String.ofList (fallbackText s.literalFallback)⟩)
    (isName_field _ (by simp)) (hword (fallbackText_ne_nil _) (isAlphanum_fallbackText _))
    (hallowed (isAlphanum_fallbackText _)) .nil
  have hlimit := Yaml.Lines.cons
    (e := ⟨"default_limit", .plain, String.ofList (limitText s.defaultLimit)⟩)
    (isName_field _ (by simp)) (hword (limitText_ne_nil _) (isAlphanum_limitText _))
    (hallowed (isAlphanum_limitText _)) hfallback
  have hlines := Yaml.Lines.cons (e := ⟨"links_path", style, s.linksPath⟩)
    (isName_field _ (by simp)) hpath
    (fun c hc => Yaml.isAllowed_of_isPrintable (Yaml.isPrintable_writeText _ c hc)) hlimit
  simp only [List.append_assoc, List.singleton_append, List.append_nil] at hlines
  refine ⟨style, ?_⟩
  rw [toList_render]
  exact hlines

theorem ofDocument_entries (style : Yaml.Style) :
    ofDocument { root := .mapping ((entries style s).map Yaml.Entry.nodes) } = some s := by
  have hlimit : ({ text := String.ofList (limitText s.defaultLimit) } : Yaml.Scalar).optionalUInt64? =
      some s.defaultLimit := by
    cases s.defaultLimit with
    | none => rfl
    | some n => exact Yaml.Scalar.optionalUInt64?_toDigits n
  have hfallback : ({ text := String.ofList (fallbackText s.literalFallback) } : Yaml.Scalar).bool? =
      some s.literalFallback := by
    cases s.literalFallback <;> rfl
  have hread : ofDocument { root := .mapping ((entries style s).map Yaml.Entry.nodes) } =
      (({ text := String.ofList (limitText s.defaultLimit) } : Yaml.Scalar).optionalUInt64?).bind
        fun limit => (({ text := String.ofList (fallbackText s.literalFallback) } :
          Yaml.Scalar).bool?).bind fun b => some ⟨s.linksPath, limit, b⟩ := by
    rfl
  rw [hread, hlimit, hfallback]
  rfl

/-- What is written for settings is read as these settings. -/
theorem parse_render : parse s.render = some s := by
  obtain ⟨style, hlines⟩ := lines_render s
  have hread := Yaml.read_of_lines hlines (by simp [entries])
  rw [String.ofList_toList] at hread
  rw [parse, hread]
  exact ofDocument_entries s style

/-- The bytes of settings hold these settings, if they are valid. -/
theorem ofBytes_bytes (path : String) : ofBytes path s.bytes = s.validate.map fun _ => s := by
  have hdecode : Utf8.decode? s.bytes = some s.render := by
    rw [bytes, Utf8.encodeString, Utf8.decode?, Utf8.decode_encode]
    exact congrArg some String.ofList_toList
  simp only [ofBytes, hdecode, parse_render]

end Settings
end LinkShelf
