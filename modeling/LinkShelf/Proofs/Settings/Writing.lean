import LinkShelf.Settings

/-! How settings are written: three entries, each a line that begins with the name of a field. -/
namespace LinkShelf
namespace Settings

def limitText : Option UInt64 → List Char
  | none => "null".toList
  | some n => Nat.toDigits 10 n.toNat

def fallbackText (b : Bool) : List Char := (if b then "true" else "false").toList

theorem toList_render (s : Settings) : s.render.toList =
    "links_path".toList ++ ':' :: ' ' :: (Yaml.writeText s.linksPath ++
      ("default_limit".toList ++ ':' :: ' ' :: (limitText s.defaultLimit ++ '\n' ::
        ("literal_fallback".toList ++ ':' :: ' ' :: (fallbackText s.literalFallback ++ ['\n']))))) := by
  have hpath : "links_path: ".toList = "links_path".toList ++ [':', ' '] := rfl
  have hlimit : "default_limit: ".toList = "default_limit".toList ++ [':', ' '] := rfl
  have hfallback : "\nliteral_fallback: ".toList =
      '\n' :: ("literal_fallback".toList ++ [':', ' ']) := rfl
  refine String.toList_ofList.trans ?_
  simp only [hpath, hlimit, hfallback, List.append_assoc, List.cons_append, List.nil_append]
  rfl

end Settings
end LinkShelf
