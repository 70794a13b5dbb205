import LinkShelf.Host.Path
import LinkShelf.Proofs.Host.Names

/-! Files in a base directory: where the path of a name below the base leads, and that a base which is
there need not be made. -/
namespace LinkShelf
namespace Machine

variable {d e : Machine} {base name : String} {here place : Place}

/-- The base path leads to a directory. The empty path is the working directory. -/
structure IsBase (d : Machine) (base : String) (here : Place) : Prop where
  leads : base = "" ∧ here = [] ∨ d.locate base = .ok here
  directory : d.lookUp here = some .directory

theorem IsBase.keep (h : d.IsBase base here) (hkeep : d.KeepsDirectories e) :
    e.IsBase base here where
  leads := h.leads.imp_right hkeep.locate
  directory := hkeep here h.directory

theorem IsFileName.startsWith_slash (h : IsFileName name) : name.startsWith "/" = false := by
  rw [Bool.eq_false_iff, ne_eq, String.startsWith_string_iff]
  intro hfront
  exact h.slash_not_mem (hfront.subset (by decide))

theorem endsWith_slash {path : String} (h : path.endsWith "/" = true) :
    ∃ cs, path.toList = cs ++ ['/'] := by
  rw [String.endsWith_eq_endsWith_toSlice, String.Slice.endsWith_string_iff] at h
  obtain ⟨cs, hcs⟩ := h
  exact ⟨cs, by simpa using hcs.symm⟩

theorem toList_joinPath (hname : IsFileName name) (hbase : base ≠ "") :
    ∃ cs, (joinPath base name).toList = cs ++ '/' :: name.toList ∧
      (base.toList = cs ++ ['/'] ∨ base.toList = cs) := by
  have hisEmpty : base.isEmpty = false := by simpa using hbase
  have hrelative : (name.startsWith "/" || base.isEmpty) = false := by
    rw [hname.startsWith_slash, hisEmpty]
    rfl
  rw [joinPath, hrelative]
  by_cases hslash : base.endsWith "/" = true
  · obtain ⟨cs, hcs⟩ := endsWith_slash hslash
    refine ⟨cs, ?_, .inl hcs⟩
    simp [hslash, String.toList_append, hcs]
  · refine ⟨base.toList, ?_, .inr rfl⟩
    have hbar : "/".toList = ['/'] := rfl
    simp [hslash, String.toList_append, hbar]

theorem joinPath_empty (name : String) : joinPath "" name = name := by
  simp [joinPath]

theorem names_of_trailing_slash {cs : List Char} (h : base.toList = cs ++ ['/']) :
    names base = (Text.pieces (· == '/') cs).map String.ofList ++ [""] := by
  rw [names, h, Text.pieces_append _ _ _ (by simp), List.map_append]
  rfl

/-- The names between the slashes of a directory's path lead to it, with a slash at the end or
without. -/
theorem walk_names_of_isBase (h : d.IsBase base here) (hbase : base ≠ "") {cs : List Char}
    (hcs : base.toList = cs ++ ['/'] ∨ base.toList = cs) :
    d.walk [] ((Text.pieces (· == '/') cs).map String.ofList) = .ok here := by
  obtain ⟨-, -, -, hwalk⟩ := locate_eq_ok.mp (h.leads.resolve_left fun hc => hbase hc.1)
  rcases hcs with hcs | hcs
  · -- the empty name behind the slash stays in the directory
    rw [names_of_trailing_slash hcs] at hwalk
    obtain ⟨between, hinit, hlast⟩ := walk_append_ok hwalk
    obtain ⟨hdir, -⟩ := walk_cons_ok hlast
    simp only [walk, hdir, true_or, if_true] at hlast
    rw [hinit, hlast]
  · rw [names, hcs] at hwalk
    exact hwalk

theorem names_joinPath (h : d.IsBase base here) (hname : IsFileName name) :
    ∃ init, names (joinPath base name) = init ++ [name] ∧ d.walk [] init = .ok here := by
  have hpiece : Text.pieces (· == '/') name.toList = [name.toList] :=
    pieces_of_not_mem hname.slash_not_mem
  by_cases hbase : base = ""
  · subst hbase
    have hroot : here = [] := by
      rcases h.leads with ⟨-, hroot⟩ | hlocate
      · exact hroot
      · exact absurd rfl (locate_eq_ok.mp hlocate).1
    refine ⟨[], ?_, by rw [hroot]; rfl⟩
    rw [joinPath_empty, names, hpiece]
    simp
  · obtain ⟨cs, hpath, hcs⟩ := toList_joinPath hname hbase
    refine ⟨_, ?_, walk_names_of_isBase h hbase hcs⟩
    rw [names, hpath, Text.pieces_append _ _ _ (by simp), hpiece]
    simp

theorem zero_not_mem_joinPath (h : d.IsBase base here) (hname : IsFileName name) :
    '\x00' ∉ (joinPath base name).toList := by
  have hbase : '\x00' ∉ base.toList := by
    rcases h.leads with ⟨rfl, -⟩ | hlocate
    · decide
    · exact (locate_eq_ok.mp hlocate).2.1
  unfold joinPath
  split
  · exact hname.zero_not_mem
  split
  · simp [String.toList_append, hbase, hname.zero_not_mem]
  · simp [String.toList_append, hbase, hname.zero_not_mem]

theorem locate_joinPath (h : d.IsBase base here) (hname : IsFileName name) :
    d.locate (joinPath base name) =
      if 4096 ≤ (joinPath base name).utf8ByteSize then .error .nameTooLong
      else .ok (here ++ [name]) := by
  obtain ⟨init, hnames, hinit⟩ := names_joinPath h hname
  have hzero := zero_not_mem_joinPath h hname
  have hempty : joinPath base name ≠ "" := by
    intro heq
    have hlast : [name] <:+ [""] := ⟨init, by rw [← hnames, heq]; rfl⟩
    have hsame : [name] = [""] := hlast.eq_of_length rfl
    exact hname.ne_empty (List.singleton_inj.mp hsame)
  have hstep : d.walk here [name] = .ok (here ++ [name]) := by
    simp [walk, h.directory, hname.ne_empty, hname.ne_dot, hname.ne_dots, hname.not_tooLong]
  have hisEmpty : (joinPath base name).isEmpty = false := by simpa using hempty
  have hcontains : (joinPath base name).toList.contains '\x00' = false := by simpa using hzero
  rw [locate, hisEmpty, hcontains, hnames, walk_append hinit, hstep]
  rfl

theorem utf8ByteSize_le_joinPath (h : name.startsWith "/" = false) :
    base.utf8ByteSize ≤ (joinPath base name).utf8ByteSize := by
  unfold joinPath
  split
  · rename_i hempty
    rw [h, Bool.false_or, String.isEmpty_iff] at hempty
    simp [hempty]
  split
  · rw [String.utf8ByteSize_append]
    omega
  · rw [String.utf8ByteSize_append, String.utf8ByteSize_append]
    omega

/-- Where a name below the base can be written, the base is a directory and the name is in it. -/
theorem exists_isBase_of_locateFile (hname : IsFileName name)
    (h : d.locateFile (joinPath base name) = .ok place) :
    ∃ here, d.IsBase base here ∧ place = here ++ [name] := by
  have hdown : LeadsDown name := ⟨hname.ne_empty, hname.ne_dot, hname.ne_dots⟩
  have hpiece : Text.pieces (· == '/') name.toList = [name.toList] :=
    pieces_of_not_mem hname.slash_not_mem
  obtain ⟨hlocate, -⟩ := locate_of_locateFile h
  obtain ⟨-, hzero, hlong, hwalk⟩ := locate_eq_ok.mp hlocate
  by_cases hbase : base = ""
  · subst hbase
    rw [joinPath_empty, names, hpiece, List.map_singleton, String.ofList_toList] at hwalk
    exact ⟨[], ⟨.inl ⟨rfl, rfl⟩, rfl⟩, walk_leadsDown hdown hwalk⟩
  · obtain ⟨cs, hpath, hcs⟩ := toList_joinPath hname hbase
    rw [names, hpath, Text.pieces_append _ _ _ (by simp), hpiece, List.map_append,
      List.map_singleton, String.ofList_toList] at hwalk
    obtain ⟨here, hinit, hlast⟩ := walk_append_ok hwalk
    obtain ⟨hhere, -⟩ := walk_cons_ok hlast
    have hnames : d.walk [] (names base) = .ok here := by
      rcases hcs with hcs | hcs
      · -- the empty name behind the slash stays in the directory
        rw [names_of_trailing_slash hcs, walk_append hinit]
        simp [walk, hhere]
      · rw [names, hcs]
        exact hinit
    have hchars : '\x00' ∉ base.toList := by
      intro hmem
      rw [hpath] at hzero
      rcases hcs with hcs | hcs <;> rw [hcs] at hmem <;> simp_all
    have hsize := @utf8ByteSize_le_joinPath base name hname.startsWith_slash
    exact ⟨here, ⟨.inr (locate_eq_ok.mpr ⟨hbase, hchars, by omega, hnames⟩), hhere⟩,
      walk_leadsDown hdown hlast⟩

theorem makeOnWay_of_walk {names : List String} (hwalk : d.walk here names = .ok place)
    (hplace : d.lookUp place = some .directory) : d.makeOnWay here names = (.ok (), d) := by
  induction names generalizing here with
  | nil => rfl
  | cons name names ih =>
    obtain ⟨hhere, -⟩ := walk_cons_ok hwalk
    simp only [walk, hhere] at hwalk
    unfold makeOnWay
    split at hwalk
    · rename_i hstay
      rw [if_pos hstay]
      exact ih hwalk
    rename_i hstay
    rw [if_neg hstay]
    split at hwalk
    · rename_i hup
      rw [if_pos hup]
      exact ih hwalk
    rename_i hup
    rw [if_neg hup]
    split at hwalk
    · cases hwalk
    rename_i hlong
    rw [if_neg hlong]
    -- the walk goes on below the name, or ends there
    have hnext : d.lookUp (here ++ [name]) = some .directory := by
      cases names with
      | nil =>
        cases hwalk
        exact hplace
      | cons next names => exact (walk_cons_ok hwalk).1
    simp only [hnext]
    exact ih hwalk

theorem makeDirectories_of_isBase (h : d.IsBase base here) :
    d.makeDirectories base = (.ok (), d) := by
  rcases h.leads with ⟨rfl, -⟩ | hlocate
  · rfl
  · obtain ⟨-, hzero, hshort, hwalk⟩ := locate_eq_ok.mp hlocate
    have hcontains : ¬ base.toList.contains '\x00' = true := by simpa using hzero
    rw [makeDirectories, if_neg hcontains, if_neg (Nat.not_le.mpr hshort)]
    exact makeOnWay_of_walk hwalk h.directory

end Machine
end LinkShelf
