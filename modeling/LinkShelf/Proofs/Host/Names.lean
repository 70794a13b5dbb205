import LinkShelf.Proofs.Host.Machine

/-! The last name of a path. What is put on to the path is put on to this name, so that it leads
somewhere else. -/
namespace LinkShelf
namespace Machine

variable {d : Machine} {path : String}

/-- A name that leads down from a directory: not one that stays there or goes back up. -/
structure LeadsDown (name : String) : Prop where
  ne_empty : name ≠ ""
  ne_dot : name ≠ "."
  ne_dots : name ≠ ".."

theorem walk_leadsDown {here place : Place} {name : String} (hname : LeadsDown name)
    (h : d.walk here [name] = .ok place) : place = here ++ [name] := by
  obtain ⟨hhere, -⟩ := walk_cons_ok h
  by_cases hlong : tooLong name = true
  · simp [walk, hhere, hname.ne_empty, hname.ne_dot, hname.ne_dots, hlong] at h
  · simp only [walk, hhere, hname.ne_empty, hname.ne_dot, hname.ne_dots, hlong, or_self,
      if_false] at h
    exact (Except.ok.inj h).symm

theorem walk_append_ok {here place : Place} {as bs : List String}
    (h : d.walk here (as ++ bs) = .ok place) :
    ∃ between, d.walk here as = .ok between ∧ d.walk between bs = .ok place := by
  induction as generalizing here with
  | nil => exact ⟨here, rfl, h⟩
  | cons name as ih =>
    obtain ⟨hhere, next, hrest, hnext⟩ := walk_cons_ok h
    obtain ⟨between, has, hbs⟩ := ih hrest
    exact ⟨between, (hnext d hhere as).trans has, hbs⟩

/-- A name stays at a place, or leads up or down from it. -/
theorem walk_singleton_cases {here place : Place} {name : String}
    (h : d.walk here [name] = .ok place) :
    place = here ∨ place = here.dropLast ∨ place = here ++ [name] := by
  obtain ⟨hhere, -⟩ := walk_cons_ok h
  simp only [walk, hhere] at h
  split at h
  · exact .inl (Except.ok.inj h).symm
  split at h
  · exact .inr (.inl (Except.ok.inj h).symm)
  split at h
  · cases h
  · exact .inr (.inr (Except.ok.inj h).symm)

theorem names_ne_nil (path : String) : names path ≠ [] := by
  simp [names, Text.pieces_ne_nil]

theorem names_append {init : List String} {name suffix : String} (h : names path = init ++ [name])
    (hsuffix : '/' ∉ suffix.toList) : names (path ++ suffix) = init ++ [name ++ suffix] := by
  have hparts : Text.pieces (· == '/') path.toList = init.map String.toList ++ [name.toList] := by
    have hlists := congrArg (List.map String.toList) h
    simpa [names] using hlists
  have hplain : ∀ c ∈ suffix.toList, (c == '/') = false := by
    intro c hc
    have hne : c ≠ '/' := fun heq => hsuffix (heq ▸ hc)
    simpa using hne
  rw [names, String.toList_append, Text.pieces_append_of_none hparts hplain]
  simp

/-- A path does not lead to where the path leads that has more in its last name. -/
theorem locate_append_ne {suffix : String} {p q : Place} (hsuffix : '/' ∉ suffix.toList)
    (hlong : 3 ≤ suffix.length) (hp : d.locate path = .ok p)
    (hq : d.locate (path ++ suffix) = .ok q) : q ≠ p := by
  obtain ⟨init, name, hnames⟩ : ∃ init name, names path = init ++ [name] := by
    obtain ⟨init, name, hnames⟩ := (List.eq_nil_or_concat (names path)).resolve_left
      (names_ne_nil path)
    exact ⟨init, name, hnames.trans (List.concat_eq_append ..)⟩
  obtain ⟨-, -, -, hpath⟩ := locate_eq_ok.mp hp
  obtain ⟨-, -, -, hlonger⟩ := locate_eq_ok.mp hq
  rw [hnames] at hpath
  rw [names_append hnames hsuffix] at hlonger
  obtain ⟨here, hinit, hlast⟩ := walk_append_ok hpath
  rw [walk_append hinit] at hlonger
  have hlength : (name ++ suffix).length = name.length + suffix.length := String.length_append ..
  have hmore : 3 ≤ (name ++ suffix).length := by omega
  -- both special names are too short to have the suffix
  have hleads : LeadsDown (name ++ suffix) := by
    constructor <;> intro heq <;> exact absurd (heq ▸ hmore) (by decide)
  rw [walk_leadsDown hleads hlonger]
  intro heq
  have hdepth := congrArg List.length heq
  rcases walk_singleton_cases hlast with rfl | rfl | rfl
  · simp at hdepth
  · simp at hdepth
    omega
  · have hsame : name ++ suffix = name := by simpa using heq
    rw [hsame] at hlength
    omega

end Machine
end LinkShelf
