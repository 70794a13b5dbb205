import LinkShelf.Proofs.Host.Base
import LinkShelf.Proofs.Settings.Initial
import LinkShelf.Proofs.Store.LinkFile

/-! Settings that are saved and then loaded: valid settings come back as they are, and their file stays
as it was saved. -/
namespace LinkShelf
namespace Settings

/-- Valid settings are saved wherever a file can be written below the base. They are loaded again as
they were, and nothing on the machine changes with that. -/
theorem load_saved {d : Machine} {base : String} {place : Place} {s : Settings}
    (hvalid : s.validate = .ok ()) (hplace : d.locateFile (filePath base) = .ok place) :
    ∃ e, (save (m := StateM Machine) base s).run d = (.ok (), e) ∧
      (load (m := StateM Machine) base).run e = (.ok s, e) ∧
        e.readFile (filePath base) = .ok s.bytes := by
  obtain ⟨here, hbase, -⟩ := Machine.exists_isBase_of_locateFile isFileName hplace
  obtain ⟨-, hnode⟩ := Machine.locate_of_locateFile hplace
  have hkeep := Machine.keepsDirectories_set hnode (some (.file s.bytes))
  have hread := Machine.readFile_set hplace s.bytes
  have hbytes : ofBytes (filePath base) s.bytes = .ok s := by
    rw [ofBytes_bytes, hvalid]
    rfl
  refine ⟨d.set place (some (.file s.bytes)), ?_, ?_, hread⟩
  · rw [run_save, Machine.writeFile_of_locateFile hplace]
    rfl
  · rw [run_load, Machine.makeDirectories_of_isBase (hbase.keep hkeep)]
    simp only [run_ensureFile, Machine.status_of_readFile hread, hread, hbytes, if_true]

/-- A path that reads like a number and a comment, with breaks, quotes and a control character. -/
def awkwardSettings : Settings where
  linksPath := " 0x1F: 'null' # \"true\"\n\n\u2028~\t\x07\\ "
  defaultLimit := some 18446744073709551615
  literalFallback := false

theorem load_saved_awkward :
    ∃ e, (save (m := StateM Machine) "shelf" awkwardSettings).run LinkFile.oneDirectory =
        (.ok (), e) ∧
      (load (m := StateM Machine) "shelf").run e = (.ok awkwardSettings, e) ∧
        e.readFile "shelf/config.yaml" = .ok awkwardSettings.bytes := by
  have hpath : filePath "shelf" = "shelf/config.yaml" := by decide +kernel
  have hvalid : awkwardSettings.validate = .ok () := by
    have hpath : Text.trim awkwardSettings.linksPath ≠ "" := by decide
    have hlimit : awkwardSettings.defaultLimit ≠ some 0 := by decide
    simp [validate, hpath, hlimit]
  have hplace : LinkFile.oneDirectory.locateFile (filePath "shelf") = .ok ["shelf", "config.yaml"] := by
    rw [hpath]
    rfl
  exact hpath ▸ load_saved hvalid hplace

end Settings
end LinkShelf
