import LinkShelf.Proofs.Host.Machine

/-! A machine that notes down what is written on it. A program does on it what it does on the machine
alone, so the notes tell what the program writes also where that changes nothing. -/
namespace LinkShelf

/-- A machine, and what was to be written on it so far, first things first. -/
structure Journal where
  machine : Machine
  written : List (String × Bytes) := []

namespace Journal

def after (j : Journal) (e : Machine) : Journal := { j with machine := e }

def afterWrite (j : Journal) (path : String) (bs : Bytes) : Journal where
  machine := (j.machine.writeFile path bs).2
  written := j.written ++ [(path, bs)]

instance : Host (StateM Journal) where
  status path := do return (← get).machine.status path
  readFile path := do return (← get).machine.readFile path
  writeFile path bs := modifyGet fun j => ((j.machine.writeFile path bs).1, j.afterWrite path bs)
  rename source target := modifyGet fun j =>
    ((j.machine.rename source target).1, j.after (j.machine.rename source target).2)
  makeDirectories path := modifyGet fun j =>
    ((j.machine.makeDirectories path).1, j.after (j.machine.makeDirectories path).2)
  now := modifyGet fun j => (j.machine.time, j.after j.machine.tick)

/-- A program on the journal does what a program on the machine does. -/
def Follows {α : Type} (x : StateM Journal α) (y : StateM Machine α) : Prop :=
  ∀ j, ((x.run j).1, (x.run j).2.machine) = y.run j.machine

namespace Follows

variable {α β : Type} {x : StateM Journal α} {y : StateM Machine α}

theorem pure (a : α) : Follows (Pure.pure a) (Pure.pure a) := fun _ => rfl

theorem bind (h : Follows x y) {f : α → StateM Journal β} {g : α → StateM Machine β}
    (hf : ∀ a, Follows (f a) (g a)) : Follows (x >>= f) (y >>= g) := by
  intro j
  have hfirst := h j
  have hrest := hf (x.run j).1 (x.run j).2
  rw [StateT.run_bind, StateT.run_bind, ← hfirst]
  exact hrest

theorem status (path : String) : Follows (Host.status path) (Host.status path) := fun _ => rfl

theorem readFile (path : String) : Follows (Host.readFile path) (Host.readFile path) :=
  fun _ => rfl

theorem writeFile (path : String) (bs : Bytes) :
    Follows (Host.writeFile path bs) (Host.writeFile path bs) := fun _ => rfl

theorem makeDirectories (path : String) :
    Follows (Host.makeDirectories path) (Host.makeDirectories path) := fun _ => rfl

theorem run (h : Follows x y) {j j' : Journal} {a : α} (hx : x.run j = (a, j')) :
    y.run j.machine = (a, j'.machine) := by
  rw [← h j, hx]

end Follows

section Run

variable {j : Journal} {d : Machine} {path : String}

theorem run_status {r : Except FileError Unit} (h : j.machine.status path = r) :
    StateT.run (m := Id) (Host.status path) j = (r, j) := by
  rw [← h]
  rfl

theorem run_readFile {r : Except FileError Bytes} (h : j.machine.readFile path = r) :
    StateT.run (m := Id) (Host.readFile path) j = (r, j) := by
  rw [← h]
  rfl

theorem run_writeFile {bs : Bytes} {r : Except FileError Unit}
    (h : j.machine.writeFile path bs = (r, d)) :
    StateT.run (m := Id) (Host.writeFile path bs) j = (r, j.afterWrite path bs) := by
  have hresult : (j.machine.writeFile path bs).1 = r := congrArg Prod.fst h
  rw [← hresult]
  rfl

theorem run_makeDirectories {r : Except FileError Unit}
    (h : j.machine.makeDirectories path = (r, d)) :
    StateT.run (m := Id) (Host.makeDirectories path) j = (r, j.after d) := by
  have hresult : (j.machine.makeDirectories path).1 = r := congrArg Prod.fst h
  have hmachine : (j.machine.makeDirectories path).2 = d := congrArg Prod.snd h
  rw [← hresult, ← hmachine]
  rfl

/-- What was written where a file can be put is there. -/
theorem readFile_afterWrite {p : Place} (h : j.machine.locateFile path = .ok p) (bs : Bytes) :
    (j.afterWrite path bs).machine.readFile path = .ok bs := by
  have hmachine : (j.afterWrite path bs).machine = j.machine.set p (some (.file bs)) :=
    congrArg Prod.snd (Machine.writeFile_of_locateFile h bs)
  rw [hmachine]
  exact Machine.readFile_set h bs

end Run

end Journal
end LinkShelf
