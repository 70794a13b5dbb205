import LinkShelf.Proofs.Host.Contents

/-! A machine on which an operation can fail although nothing in the tree stands against it: a disk is
full, or a right is missing. A program that ends well on it has done what it does on the machine alone,
and what one that fails has changed is told by the paths that it writes to. -/
namespace LinkShelf

/-- What goes wrong with an operation. -/
inductive Fault where
  /-- Nothing is done. -/
  | refused (e : FileError)
  /-- A file is opened to be written, and this is left in it. -/
  | torn (left : Bytes) (e : FileError)
  deriving DecidableEq, Repr

def Fault.error : Fault → FileError
  | refused e => e
  | torn _ e => e

/-- A machine, and what goes wrong with the operations to come, first things first. The clock can always
be read, and so can be seen whether something is at a path. -/
structure FaultyMachine where
  machine : Machine
  faults : List (Option Fault) := []

namespace FaultyMachine

def fault? (d : FaultyMachine) : Option Fault := d.faults.head?.join

def after (d : FaultyMachine) (e : Machine) : FaultyMachine := ⟨e, d.faults.tail⟩

def attempt {α : Type} (d : FaultyMachine) (result : Except FileError α × Machine) :
    Except FileError α × FaultyMachine :=
  match d.fault? with
  | none => (result.1, d.after result.2)
  | some f => (.error f.error, d.after d.machine)

def writeFile (d : FaultyMachine) (path : String) (bs : Bytes) :
    Except FileError Unit × FaultyMachine :=
  match d.fault?, d.machine.locateFile path with
  | some (.torn left e), .ok p => (.error e, d.after (d.machine.set p (some (.file left))))
  | _, _ => d.attempt (d.machine.writeFile path bs)

instance : Host (StateM FaultyMachine) where
  status path := do return (← get).machine.status path
  readFile path := modifyGet fun d => d.attempt (d.machine.readFile path, d.machine)
  writeFile path bs := modifyGet (·.writeFile path bs)
  rename source target := modifyGet fun d => d.attempt (d.machine.rename source target)
  makeDirectories path := modifyGet fun d => d.attempt (d.machine.makeDirectories path)
  now := modifyGet fun d => (d.machine.time, { d with machine := d.machine.tick })

def IsFaulty (d : FaultyMachine) : Prop := ∃ f, some f ∈ d.faults

section Operations

variable {d : FaultyMachine} {α : Type}

theorem mem_faults {f : Fault} (h : d.fault? = some f) : some f ∈ d.faults := by
  rcases d with ⟨m, _ | ⟨o, os⟩⟩
  · cases h
  · obtain rfl : o = some f := h
    exact List.mem_cons_self

theorem attempt_cases (d : FaultyMachine) (result : Except FileError α × Machine) :
    d.attempt result = (result.1, d.after result.2) ∨
      ∃ f, some f ∈ d.faults ∧ d.attempt result = (.error f.error, d.after d.machine) := by
  unfold attempt
  cases hfault : d.fault? with
  | none => exact .inl rfl
  | some f => exact .inr ⟨f, mem_faults hfault, rfl⟩

theorem writeFile_cases (d : FaultyMachine) (path : String) (bs : Bytes) :
    d.writeFile path bs = ((d.machine.writeFile path bs).1, d.after (d.machine.writeFile path bs).2) ∨
    (∃ f, some f ∈ d.faults ∧ d.writeFile path bs = (.error f.error, d.after d.machine)) ∨
    ∃ left e p, some (.torn left e) ∈ d.faults ∧ d.machine.locateFile path = .ok p ∧
      d.writeFile path bs = (.error e, d.after (d.machine.set p (some (.file left)))) := by
  unfold writeFile
  split
  · rename_i left e p hfault hfree
    exact .inr (.inr ⟨left, e, p, mem_faults hfault, hfree, rfl⟩)
  · exact (d.attempt_cases _).imp_right .inl

theorem attempt_none (e : Machine) (rest : List (Option Fault))
    (result : Except FileError α × Machine) :
    (mk e (none :: rest)).attempt result = (result.1, ⟨result.2, rest⟩) := rfl

theorem writeFile_none (e : Machine) (rest : List (Option Fault)) (path : String) (bs : Bytes) :
    (mk e (none :: rest)).writeFile path bs =
      ((e.writeFile path bs).1, ⟨(e.writeFile path bs).2, rest⟩) := rfl

theorem writeFile_torn {e : Machine} {path : String} {p : Place} (h : e.locateFile path = .ok p)
    (left bs : Bytes) (err : FileError) (rest : List (Option Fault)) :
    (mk e (some (.torn left err) :: rest)).writeFile path bs =
      (.error err, ⟨e.set p (some (.file left)), rest⟩) := by
  have hfault : (mk e (some (.torn left err) :: rest)).fault? = some (.torn left err) := rfl
  simp only [writeFile, hfault, h]
  rfl

theorem run_status (d : FaultyMachine) (path : String) :
    StateT.run (m := Id) (Host.status path) d = (d.machine.status path, d) := rfl

theorem run_readFile (d : FaultyMachine) (path : String) :
    StateT.run (m := Id) (Host.readFile path) d =
      d.attempt (d.machine.readFile path, d.machine) := rfl

theorem run_writeFile (d : FaultyMachine) (path : String) (bs : Bytes) :
    StateT.run (m := Id) (Host.writeFile path bs) d = d.writeFile path bs := rfl

theorem run_rename (d : FaultyMachine) (source target : String) :
    StateT.run (m := Id) (Host.rename source target) d =
      d.attempt (d.machine.rename source target) := rfl

theorem machine_of_rename_error {d e : FaultyMachine} {source target : String} {err : FileError}
    (h : StateT.run (m := Id) (Host.rename source target) d = (.error err, e)) :
    e.machine = d.machine := by
  rw [run_rename] at h
  rcases d.attempt_cases (d.machine.rename source target) with hsame | ⟨f, -, hfailed⟩
  · rw [hsame] at h
    obtain ⟨herr, rfl⟩ := Prod.mk.inj h
    exact Machine.rename_error herr
  · rw [hfailed] at h
    cases h
    rfl

theorem run_makeDirectories (d : FaultyMachine) (path : String) :
    StateT.run (m := Id) (Host.makeDirectories path) d =
      d.attempt (d.machine.makeDirectories path) := rfl

end Operations

def IsError {ε α : Type} (r : Except ε α) : Prop := ∃ e, r = .error e

/-- What a program does on a faulty machine: the same as on the machine alone, or something goes wrong
and the result is a failure. -/
def Tracks {α : Type} (IsFailure : α → Prop) (x : StateM FaultyMachine α) (y : StateM Machine α) :
    Prop :=
  ∀ d : FaultyMachine,
    ((x.run d).1, (x.run d).2.machine) = y.run d.machine ∧ (x.run d).2.faults <:+ d.faults ∨
    IsFailure (x.run d).1 ∧ d.IsFaulty

namespace Tracks

variable {α β : Type} {IsFailure : α → Prop} {IsFailure' : β → Prop} {x : StateM FaultyMachine α}
  {y : StateM Machine α}

theorem pure (a : α) : Tracks IsFailure (Pure.pure a) (Pure.pure a) :=
  fun d => .inl ⟨rfl, List.suffix_refl d.faults⟩

theorem bind (h : Tracks IsFailure x y) {f : α → StateM FaultyMachine β} {g : α → StateM Machine β}
    (hf : ∀ a, Tracks IsFailure' (f a) (g a))
    (hfails : ∀ a, IsFailure a → ∀ d, IsFailure' ((f a).run d).1) :
    Tracks IsFailure' (x >>= f) (y >>= g) := by
  intro d
  rcases h d with ⟨hsame, hfaults⟩ | ⟨hfailed, hfaulty⟩
  · rw [StateT.run_bind, StateT.run_bind, ← hsame]
    rcases hf (x.run d).1 (x.run d).2 with ⟨hsame', hfaults'⟩ | ⟨hfailed, fault, hfault⟩
    · exact .inl ⟨hsame', hfaults'.trans hfaults⟩
    · exact .inr ⟨hfailed, fault, hfaults.subset hfault⟩
  · exact .inr ⟨hfails _ hfailed _, hfaulty⟩

theorem bind_ok {ε : Type} {x : StateM FaultyMachine (Except ε α)} {y : StateM Machine (Except ε α)}
    {f : Except ε α → StateM FaultyMachine β} {g : Except ε α → StateM Machine β} {failed : ε → β}
    (h : Tracks IsError x y) (hf : ∀ err, f (.error err) = Pure.pure (failed err))
    (hg : ∀ err, g (.error err) = Pure.pure (failed err)) (hfails : ∀ err, IsFailure' (failed err))
    (hok : ∀ a, Tracks IsFailure' (f (.ok a)) (g (.ok a))) : Tracks IsFailure' (x >>= f) (y >>= g) := by
  refine h.bind (fun r => ?_) ?_
  · cases r with
    | error err =>
      rw [hf, hg]
      exact pure _
    | ok a => exact hok a
  · rintro _ ⟨err, rfl⟩ d
    rw [hf]
    exact hfails err

theorem status (path : String) : Tracks (fun _ => False) (Host.status path) (Host.status path) :=
  fun d => .inl ⟨rfl, List.suffix_refl d.faults⟩

theorem now : Tracks (fun _ => False) Host.now Host.now :=
  fun d => .inl ⟨rfl, List.suffix_refl d.faults⟩

theorem of_attempt {x : StateM FaultyMachine (Except FileError α)}
    {y : StateM Machine (Except FileError α)}
    (h : ∀ d : FaultyMachine, x.run d = d.attempt (y.run d.machine)) : Tracks IsError x y := by
  intro d
  rw [h d]
  rcases d.attempt_cases (y.run d.machine) with hsame | ⟨f, hf, hfailed⟩
  · rw [hsame]
    exact .inl ⟨rfl, d.faults.tail_suffix⟩
  · rw [hfailed]
    exact .inr ⟨⟨_, rfl⟩, f, hf⟩

theorem readFile (path : String) : Tracks IsError (Host.readFile path) (Host.readFile path) :=
  of_attempt fun _ => rfl

theorem rename (source target : String) :
    Tracks IsError (Host.rename source target) (Host.rename source target) :=
  of_attempt fun _ => rfl

theorem makeDirectories (path : String) :
    Tracks IsError (Host.makeDirectories path) (Host.makeDirectories path) :=
  of_attempt fun _ => rfl

theorem writeFile (path : String) (bs : Bytes) :
    Tracks IsError (Host.writeFile path bs) (Host.writeFile path bs) := by
  intro d
  rw [run_writeFile]
  rcases d.writeFile_cases path bs with hsame | ⟨f, hf, hfailed⟩ | ⟨left, e, p, hf, -, hfailed⟩
  · rw [hsame]
    exact .inl ⟨rfl, d.faults.tail_suffix⟩
  · rw [hfailed]
    exact .inr ⟨⟨_, rfl⟩, f, hf⟩
  · rw [hfailed]
    exact .inr ⟨⟨_, rfl⟩, _, hf⟩

theorem run_of_not_failed {d e : FaultyMachine} {a : α} (h : Tracks IsFailure x y)
    (hx : x.run d = (a, e)) (ha : ¬ IsFailure a) : y.run d.machine = (a, e.machine) := by
  have hd := h d
  rw [hx] at hd
  rcases hd with ⟨hsame, -⟩ | ⟨hfailed, -⟩
  · exact hsame.symm
  · exact absurd hfailed ha

/-- Where nothing goes wrong a program does what it does on the machine alone. -/
theorem run_of_not_faulty {d : FaultyMachine} {a : α} {e : Machine} (h : Tracks IsFailure x y)
    (hd : ¬ d.IsFaulty) (hy : y.run d.machine = (a, e)) :
    ∃ e', x.run d = (a, e') ∧ e'.machine = e := by
  rcases h d with ⟨hsame, -⟩ | ⟨-, hfaulty⟩
  · rw [hy] at hsame
    have hresult : (x.run d).1 = a := congrArg Prod.fst hsame
    exact ⟨(x.run d).2, Prod.ext hresult rfl, congrArg Prod.snd hsame⟩
  · exact absurd hfaulty hd

end Tracks

/-- A program that changes no file but the one that a path leads to, whatever goes wrong. -/
def WritesOnly {α : Type} (path : String) (x : StateM FaultyMachine α) : Prop :=
  ∀ d : FaultyMachine, d.machine.TouchesOnly (x.run d).2.machine path

namespace WritesOnly

variable {α β : Type} {path : String} {x : StateM FaultyMachine α}

theorem pure (a : α) : WritesOnly path (Pure.pure a) := fun d => .refl d.machine path

theorem bind (h : WritesOnly path x) {f : α → StateM FaultyMachine β}
    (hf : ∀ a, WritesOnly path (f a)) : WritesOnly path (x >>= f) := by
  intro d
  rw [StateT.run_bind]
  exact (h d).trans (hf _ _)

theorem of_bind {f : α → StateM FaultyMachine β} (hf : ∀ a, WritesOnly path (f a))
    {d e : FaultyMachine} {b : β} (h : (x >>= f).run d = (b, e)) :
    (x.run d).2.machine.TouchesOnly e.machine path := by
  have hfirst : x.run d = ((x.run d).1, (x.run d).2) := rfl
  have hrest := hf (x.run d).1 (x.run d).2
  rw [run_bind hfirst] at h
  rwa [h] at hrest

theorem status (path other : String) : WritesOnly path (Host.status other) :=
  fun d => .refl d.machine path

theorem readFile (path other : String) : WritesOnly path (Host.readFile other) := by
  intro d
  rw [run_readFile]
  rcases d.attempt_cases (d.machine.readFile other, d.machine) with hsame | ⟨_, -, hfailed⟩
  · rw [hsame]
    exact .refl d.machine path
  · rw [hfailed]
    exact .refl d.machine path

theorem writeFile (path : String) (bs : Bytes) : WritesOnly path (Host.writeFile path bs) := by
  intro d
  rw [run_writeFile]
  rcases d.writeFile_cases path bs with hsame | ⟨_, -, hfailed⟩ | ⟨left, _, p, -, hfree, hfailed⟩
  · rw [hsame]
    exact .writeFile d.machine path bs
  · rw [hfailed]
    exact .refl d.machine path
  · rw [hfailed]
    exact .set_file hfree left

end WritesOnly

end FaultyMachine
end LinkShelf
