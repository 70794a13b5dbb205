import LinkShelf.Proofs.Host.Machine
import LinkShelf.Proofs.Settings.RoundTrip

/-! How settings are loaded and saved on a machine, and that the defaults of a base directory that has
none yet are read back. -/
namespace LinkShelf
namespace Settings

theorem isFileName : Machine.IsFileName "config.yaml" := by constructor <;> decide

theorem ofBytes_initial (path : String) : ofBytes path ({} : Settings).bytes = .ok {} := by
  have hvalid : ({} : Settings).validate = .ok () := by
    have hpath : Text.trim "links.csv" ≠ "" := by decide
    simp [validate, hpath]
  rw [ofBytes_bytes, hvalid]
  rfl

variable (d : Machine) (base path : String)

theorem run_ensureFile :
    (ensureFile (m := StateM Machine) path).run d =
      match d.status path with
      | .ok () => (.ok (), d)
      | .error _ =>
        ((d.writeFile path ({} : Settings).bytes).1.mapError .unwritable,
          (d.writeFile path ({} : Settings).bytes).2) := by
  rw [ensureFile, run_bind (Machine.run_status d path)]
  rcases d.status path with err | u <;> rfl

theorem run_save (s : Settings) :
    (save (m := StateM Machine) base s).run d =
      ((d.writeFile (filePath base) s.bytes).1.mapError .unwritable,
        (d.writeFile (filePath base) s.bytes).2) := rfl

theorem run_load :
    (load (m := StateM Machine) base).run d =
      match d.makeDirectories base with
      | (.error err, e) => (.error (.noBase base err), e)
      | (.ok (), e) =>
        match (ensureFile (m := StateM Machine) (filePath base)).run e with
        | (.error err, e) => (.error err, e)
        | (.ok (), e) =>
          match e.readFile (filePath base) with
          | .error err => (.error (.unreadable (filePath base) err), e)
          | .ok bs =>
            match ofBytes (filePath base) bs with
            | .error err => (.error err, e)
            | .ok s =>
              if bs = s.bytes then (.ok s, e)
              else
                (((save (m := StateM Machine) base s).run e).1.map fun _ => s,
                  ((save (m := StateM Machine) base s).run e).2) := by
  cases hbase : d.makeDirectories base with
  | mk made e =>
    have hrun : StateT.run (m := Id) (Host.makeDirectories base) d = (made, e) := hbase
    rw [load, run_bind hrun]
    rcases made with err | u
    · rfl
    simp only
    cases hfile : (ensureFile (m := StateM Machine) (filePath base)).run e with
    | mk written e' =>
      rw [run_bind hfile]
      rcases written with err | u
      · rfl
      simp only
      rw [run_bind (Machine.run_readFile e' (filePath base))]
      rcases e'.readFile (filePath base) with err | bs
      · rfl
      simp only
      rcases ofBytes (filePath base) bs with err | s
      · rfl
      simp only
      split
      · rfl
      · rfl

end Settings
end LinkShelf
