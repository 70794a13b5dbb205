import LinkShelf.Host.Machine
import LinkShelf.Proofs.Outcome

/-! Files that are written or moved can be read where they were put. No operation on a file takes a
directory away, so a path leads to the same place before and after. -/
namespace LinkShelf
namespace Machine

variable {d e : Machine}

/-- A way that can be walked begins in a directory, and its first name leads on from there, in any
machine that has this directory. -/
theorem walk_cons_ok {here place : Place} {name : String} {names : List String}
    (h : d.walk here (name :: names) = .ok place) :
    d.lookUp here = some .directory ∧ ∃ next, d.walk next names = .ok place ∧
      ∀ e : Machine, e.lookUp here = some .directory →
        ∀ rest, e.walk here (name :: rest) = e.walk next rest := by
  cases hnode : d.lookUp here with
  | none => simp [walk, hnode] at h
  | some node =>
    cases node with
    | file bs => simp [walk, hnode] at h
    | directory =>
      refine ⟨rfl, ?_⟩
      simp only [walk, hnode] at h
      by_cases hstay : name = "" ∨ name = "."
      · rw [if_pos hstay] at h
        exact ⟨here, h, fun e he rest => by simp only [walk, he, if_pos hstay]⟩
      by_cases hup : name = ".."
      · rw [if_neg hstay, if_pos hup] at h
        exact ⟨here.dropLast, h, fun e he rest => by simp only [walk, he, if_neg hstay, if_pos hup]⟩
      by_cases hlong : tooLong name = true
      · simp [hstay, hup, hlong] at h
      · rw [if_neg hstay, if_neg hup, if_neg hlong] at h
        exact ⟨here ++ [name], h, fun e he rest => by
          simp only [walk, he, if_neg hstay, if_neg hup, if_neg hlong]⟩

theorem walk_append {here place : Place} {as : List String} (h : d.walk here as = .ok place)
    (bs : List String) : d.walk here (as ++ bs) = d.walk place bs := by
  induction as generalizing here with
  | nil =>
    cases h
    rfl
  | cons name as ih =>
    obtain ⟨hhere, next, hrest, hnext⟩ := walk_cons_ok h
    rw [List.cons_append, hnext d hhere]
    exact ih hrest

theorem locate_eq_ok {path : String} {place : Place} :
    d.locate path = .ok place ↔ path ≠ "" ∧ '\x00' ∉ path.toList ∧ path.utf8ByteSize < 4096 ∧
      d.walk [] (names path) = .ok place := by
  unfold locate
  by_cases hempty : path = ""
  · simp [hempty]
  by_cases hzero : '\x00' ∈ path.toList
  · simp [hempty, hzero]
  by_cases hlong : 4096 ≤ path.utf8ByteSize
  · simp [hempty, hzero, hlong, Nat.not_lt.mpr hlong]
  · simp [hempty, hzero, hlong, Nat.not_le.mp hlong]

def KeepsDirectories (d e : Machine) : Prop :=
  ∀ p, d.lookUp p = some .directory → e.lookUp p = some .directory

theorem KeepsDirectories.walk (h : d.KeepsDirectories e) {here place : Place} {names : List String}
    (hwalk : d.walk here names = .ok place) : e.walk here names = .ok place := by
  induction names generalizing here with
  | nil => exact hwalk
  | cons name names ih =>
    obtain ⟨hhere, next, hrest, hnext⟩ := walk_cons_ok hwalk
    rw [hnext e (h here hhere)]
    exact ih hrest

theorem KeepsDirectories.locate (h : d.KeepsDirectories e) {path : String} {place : Place}
    (hlocate : d.locate path = .ok place) : e.locate path = .ok place := by
  obtain ⟨hempty, hzero, hlong, hwalk⟩ := locate_eq_ok.mp hlocate
  exact locate_eq_ok.mpr ⟨hempty, hzero, hlong, h.walk hwalk⟩

theorem lookUp_set_self {p : Place} (hp : p ≠ []) (n : Option Node) :
    (d.set p n).lookUp p = n := by
  cases p with
  | nil => exact absurd rfl hp
  | cons name p => simp [lookUp]

theorem lookUp_set_of_ne {p q : Place} (hq : q ≠ p) (n : Option Node) :
    (d.set p n).lookUp q = d.lookUp q := by
  simp [lookUp, hq]

theorem set_set_self (d : Machine) (p : Place) (m n : Option Node) :
    (d.set p m).set p n = d.set p n := by
  simp only [set, mk.injEq, and_true]
  funext q
  by_cases hq : q = p <;> simp [hq]

theorem ne_nil_of_lookUp {p : Place} (h : d.lookUp p ≠ some .directory) : p ≠ [] := by
  rintro rfl
  exact h rfl

theorem keepsDirectories_set {p : Place} (h : d.lookUp p ≠ some .directory) (n : Option Node) :
    d.KeepsDirectories (d.set p n) := by
  intro q hq
  have hne : q ≠ p := by
    rintro rfl
    exact h hq
  rw [lookUp_set_of_ne hne, hq]

theorem locateFile_of_locate {path : String} {p : Place} (hlocate : d.locate path = .ok p)
    (hnode : d.lookUp p ≠ some .directory) : d.locateFile path = .ok p := by
  simp only [locateFile, hlocate]

theorem locate_of_locateFile {path : String} {p : Place} (h : d.locateFile path = .ok p) :
    d.locate path = .ok p ∧ d.lookUp p ≠ some .directory := by
  unfold locateFile at h
  cases hlocate : d.locate path with
  | error err => simp [hlocate] at h
  | ok q =>
    by_cases hnode : d.lookUp q = some .directory
    · simp [hlocate, hnode] at h
    · simp only [hlocate] at h
      cases h
      exact ⟨rfl, hnode⟩

theorem readFile_eq_ok {path : String} {bs : Bytes} :
    d.readFile path = .ok bs ↔ ∃ p, d.locate path = .ok p ∧ d.lookUp p = some (.file bs) := by
  unfold readFile
  cases hlocate : d.locate path with
  | error err => simp
  | ok q =>
    cases hnode : d.lookUp q with
    | none => simp [hnode]
    | some node => cases node <;> simp [hnode]

theorem status_of_readFile {path : String} {bs : Bytes} (h : d.readFile path = .ok bs) :
    d.status path = .ok () := by
  obtain ⟨p, hlocate, hnode⟩ := readFile_eq_ok.mp h
  simp [status, hlocate, hnode]

theorem readFile_set {path : String} {p : Place} (h : d.locateFile path = .ok p) (bs : Bytes) :
    (d.set p (some (.file bs))).readFile path = .ok bs := by
  obtain ⟨hlocate, hnode⟩ := locate_of_locateFile h
  refine readFile_eq_ok.mpr ⟨p, (keepsDirectories_set hnode _).locate hlocate, ?_⟩
  exact lookUp_set_self (ne_nil_of_lookUp hnode) _

theorem keepsDirectories_of_set {p : Place} (hp : d.lookUp p ≠ some .directory) {n : Option Node}
    (hn : n ≠ some .directory) : (d.set p n).KeepsDirectories d := by
  intro q hq
  by_cases hqp : q = p
  · subst hqp
    rw [lookUp_set_self (ne_nil_of_lookUp hp)] at hq
    exact absurd hq hn
  · rwa [lookUp_set_of_ne hqp] at hq

/-- A file can be put at the same paths where the same directories are. -/
theorem KeepsDirectories.locateFile (h : d.KeepsDirectories e) (h' : e.KeepsDirectories d)
    {path : String} {p : Place} (hpath : d.locateFile path = .ok p) :
    e.locateFile path = .ok p := by
  obtain ⟨hlocate, hnode⟩ := locate_of_locateFile hpath
  exact locateFile_of_locate (h.locate hlocate) fun hdir => hnode (h' p hdir)

/-- A path at which a file can be put still is one when something other than a directory has been
put elsewhere, or there. -/
theorem locateFile_set {path : String} {p q : Place} (h : d.locateFile path = .ok q)
    (hp : d.lookUp p ≠ some .directory) {n : Option Node} (hn : n ≠ some .directory) :
    (d.set p n).locateFile path = .ok q :=
  (keepsDirectories_set hp n).locateFile (keepsDirectories_of_set hp hn) h

theorem locateFile_of_set {path : String} {p q : Place} {n : Option Node}
    (h : (d.set p n).locateFile path = .ok q) (hp : d.lookUp p ≠ some .directory)
    (hn : n ≠ some .directory) : d.locateFile path = .ok q :=
  (keepsDirectories_of_set hp hn).locateFile (keepsDirectories_set hp n) h

/-- What the name of a file in a directory can be. -/
structure IsFileName (name : String) : Prop where
  ne_empty : name ≠ ""
  ne_dot : name ≠ "."
  ne_dots : name ≠ ".."
  slash_not_mem : '/' ∉ name.toList
  zero_not_mem : '\x00' ∉ name.toList
  not_tooLong : tooLong name = false

theorem pieces_of_not_mem {cs : List Char} (h : '/' ∉ cs) : Text.pieces (· == '/') cs = [cs] := by
  apply Text.pieces_of_none
  intro c hc
  have hne : c ≠ '/' := fun heq => h (heq ▸ hc)
  simpa using hne

theorem names_child (dir : String) {name : String} (h : '/' ∉ name.toList) :
    names (dir ++ "/" ++ name) = names dir ++ [name] := by
  have hslash : "/".toList = ['/'] := rfl
  have hname : Text.pieces (· == '/') name.toList = [name.toList] := pieces_of_not_mem h
  simp only [names, String.toList_append, hslash, List.append_assoc, List.singleton_append]
  rw [Text.pieces_append _ _ _ (by simp), hname]
  simp

theorem locateFile_child {dir name : String} {here : Place} (hdir : d.locate dir = .ok here)
    (hhere : d.lookUp here = some .directory) (hname : IsFileName name)
    (hsize : (dir ++ "/" ++ name).utf8ByteSize < 4096)
    (hfree : d.lookUp (here ++ [name]) ≠ some .directory) :
    d.locateFile (dir ++ "/" ++ name) = .ok (here ++ [name]) := by
  obtain ⟨-, hzero, -, hwalk⟩ := locate_eq_ok.mp hdir
  have hstep : d.walk here [name] = .ok (here ++ [name]) := by
    simp [walk, hhere, hname.ne_empty, hname.ne_dot, hname.ne_dots, hname.not_tooLong]
  have hplace : d.walk [] (names (dir ++ "/" ++ name)) = .ok (here ++ [name]) := by
    rw [names_child dir hname.slash_not_mem, walk_append hwalk, hstep]
  have hchars : '\x00' ∉ (dir ++ "/" ++ name).toList := by
    simp [String.toList_append, hzero, hname.zero_not_mem]
  have hempty : dir ++ "/" ++ name ≠ "" := by
    simp [String.append_eq_empty_iff]
  exact locateFile_of_locate (locate_eq_ok.mpr ⟨hempty, hchars, hsize, hplace⟩) hfree

theorem writeFile_of_locateFile {path : String} {p : Place} (h : d.locateFile path = .ok p)
    (bs : Bytes) : d.writeFile path bs = (.ok (), d.set p (some (.file bs))) := by
  simp only [writeFile, h]

theorem rename_of_locateFile {source target : String} {p q : Place} {bs : Bytes}
    (hsource : d.locate source = .ok p) (hfile : d.lookUp p = some (.file bs))
    (htarget : d.locateFile target = .ok q) :
    d.rename source target = (.ok (), (d.set p none).set q (some (.file bs))) := by
  simp only [rename, hsource, hfile, htarget]

theorem rename_of_locateFile_error {source target : String} {p : Place} {bs : Bytes}
    {err : FileError} (hsource : d.locate source = .ok p) (hfile : d.lookUp p = some (.file bs))
    (htarget : d.locateFile target = .error err) :
    ∃ err', d.rename source target = (.error err', d) := by
  simp only [rename, hsource, hfile, htarget]
  exact ⟨_, rfl⟩

theorem rename_error {source target : String} {err : FileError}
    (h : (d.rename source target).1 = .error err) : (d.rename source target).2 = d := by
  unfold rename at h ⊢
  repeat' split
  all_goals first | rfl | simp_all

theorem readFile_writeFile {path : String} {bs : Bytes}
    (h : d.writeFile path bs = (.ok (), e)) : e.readFile path = .ok bs := by
  cases hlocate : d.locateFile path with
  | error err => simp [writeFile, hlocate] at h
  | ok p =>
    rw [writeFile_of_locateFile hlocate] at h
    cases h
    exact readFile_set hlocate bs

theorem readFile_rename {source target : String} {bs : Bytes} (hread : d.readFile source = .ok bs)
    (h : d.rename source target = (.ok (), e)) : e.readFile target = .ok bs := by
  obtain ⟨p, hsource, hfile⟩ := readFile_eq_ok.mp hread
  cases htarget : d.locateFile target with
  | error err => simp [rename, hsource, hfile, htarget] at h
  | ok q =>
    rw [rename_of_locateFile hsource hfile htarget] at h
    cases h
    exact readFile_set (locateFile_set htarget (by simp [hfile]) (by simp)) bs

section Run

variable (d : Machine)

@[simp] theorem run_status (path : String) :
    StateT.run (m := Id) (Host.status path) d = (d.status path, d) := rfl

@[simp] theorem run_readFile (path : String) :
    StateT.run (m := Id) (Host.readFile path) d = (d.readFile path, d) := rfl

@[simp] theorem run_writeFile (path : String) (bs : Bytes) :
    StateT.run (m := Id) (Host.writeFile path bs) d = d.writeFile path bs := rfl

@[simp] theorem run_rename (source target : String) :
    StateT.run (m := Id) (Host.rename source target) d = d.rename source target := rfl

def time : Time.Instant := d.clock d.readings

def tick : Machine := { d with readings := d.readings + 1 }

@[simp] theorem run_now : StateT.run (m := Id) Host.now d = (d.time, d.tick) := rfl

@[simp] theorem lookUp_tick (p : Place) : d.tick.lookUp p = d.lookUp p := rfl

@[simp] theorem walk_tick (here : Place) (names : List String) :
    d.tick.walk here names = d.walk here names := by
  induction names generalizing here with
  | nil => rfl
  | cons name names ih => simp only [walk, lookUp_tick, ih]

@[simp] theorem locate_tick (path : String) : d.tick.locate path = d.locate path := by
  simp only [locate, walk_tick]

@[simp] theorem readFile_tick (path : String) : d.tick.readFile path = d.readFile path := by
  simp only [readFile, locate_tick, lookUp_tick]

@[simp] theorem asksForDirectory_tick (path : String) :
    d.tick.asksForDirectory path = d.asksForDirectory path := by
  simp only [asksForDirectory, walk_tick, lookUp_tick]

@[simp] theorem locateFile_tick (path : String) : d.tick.locateFile path = d.locateFile path := by
  simp only [locateFile, locate_tick, asksForDirectory_tick, lookUp_tick]

end Run

theorem locateFile_of_readFile {path : String} {bs : Bytes} (h : d.readFile path = .ok bs) :
    ∃ p, d.locateFile path = .ok p := by
  obtain ⟨p, hlocate, hfile⟩ := readFile_eq_ok.mp h
  exact ⟨p, locateFile_of_locate hlocate (by simp [hfile])⟩

theorem lookUp_of_status {path : String} {p : Place} (hlocate : d.locate path = .ok p)
    (h : d.status path = .error .notFound) : d.lookUp p = none := by
  simpa [status, hlocate] using h

theorem status_of_lookUp_none {path : String} {p : Place} (hlocate : d.locate path = .ok p)
    (hnode : d.lookUp p = none) : d.status path = .error .notFound := by
  simp [status, hlocate, hnode]

end Machine
end LinkShelf
