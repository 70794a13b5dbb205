import LinkShelf.Text.ComposeTable

/-! Canonical composition: marks are put in order, and characters that one other stands for are
replaced by it. The characters must have no case or be lowercase. -/
namespace LinkShelf
namespace Text

def combiningClass (c : Char) : Nat :=
  match combiningRows.find? fun r => r.1 ≤ c.toNat && c.toNat ≤ r.2.1 with
  | some r => r.2.2
  | none => 0

/-- The syllable of a leading consonant and a vowel, or of a syllable and a trailing consonant. -/
def composeSyllable? (a b : Nat) : Option Nat :=
  if 0x1100 ≤ a && a < 0x1113 && 0x1161 ≤ b && b < 0x1176 then
    some (0xac00 + ((a - 0x1100) * 21 + (b - 0x1161)) * 28)
  else if 0xac00 ≤ a && a < 0xd7a4 && (a - 0xac00) % 28 = 0 && 0x11a7 < b && b < 0x11c3 then
    some (a + (b - 0x11a7))
  else none

def decomposeSyllable? (n : Nat) : Option (Nat × Nat) :=
  if 0xac00 ≤ n && n < 0xd7a4 then
    let k := n - 0xac00
    if k % 28 = 0 then some (0x1100 + k / 588, 0x1161 + k / 28 % 21)
    else some (n - k % 28, 0x11a7 + k % 28)
  else none

def composePair? (a b : Char) : Option Char :=
  match composeSyllable? a.toNat b.toNat with
  | some n => some (Char.ofNat n)
  | none =>
    (composedRows.find? fun r => r.2.1 = a.toNat && r.2.2 = b.toNat).map (Char.ofNat ·.1)

def parts? (c : Char) : Option (Char × Char) :=
  match decomposeSyllable? c.toNat with
  | some (a, b) => some (Char.ofNat a, Char.ofNat b)
  | none =>
    (composedRows.find? (·.1 = c.toNat)).map fun r => (Char.ofNat r.2.1, Char.ofNat r.2.2)

/-- The parts of a character, whose first ones have parts in turn; none has more than four. -/
def decomposeChar : (fuel : Nat) → Char → List Char
  | 0, c => [c]
  | fuel + 1, c =>
    match parts? c with
    | some (a, b) => decomposeChar fuel a ++ [b]
    | none => [c]

def sortMarks (cs : List Char) : List Char :=
  cs.mergeSort fun a b => combiningClass a ≤ combiningClass b

/-- Sorts each run of marks by class; `marks` is the run that is being read. -/
def sortFrom (marks : List Char) : List Char → List Char
  | [] => sortMarks marks
  | c :: cs =>
    if combiningClass c = 0 then sortMarks marks ++ c :: sortFrom [] cs
    else sortFrom (marks ++ [c]) cs

/-- Composes a starter with what follows it. The marks between them are kept; the last one hides
those behind it that are not of a higher class. -/
def composeFrom (starter : Option Char) (kept : List Char) (last : Nat) : List Char → List Char
  | [] => starter.toList ++ kept
  | c :: cs =>
    let k := combiningClass c
    match if kept.isEmpty || last < k then starter.bind (composePair? · c) else none with
    | some d => composeFrom (some d) kept last cs
    | none =>
      if k = 0 then starter.toList ++ kept ++ composeFrom (some c) [] 0 cs
      else composeFrom starter (kept ++ [c]) k cs

def compose (cs : List Char) : List Char :=
  composeFrom none [] 0 (sortFrom [] (cs.flatMap (decomposeChar 4)))

end Text
end LinkShelf
