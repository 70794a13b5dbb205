import LinkShelf.Text.Utf8

/-! Records of comma separated fields. A carriage return and a line feed each end a record, empty
lines hold none, and a field in double quotes may contain anything, its quotes doubled. -/
namespace LinkShelf
namespace Csv

def comma : UInt8 := 0x2C
def quote : UInt8 := 0x22
def lineFeed : UInt8 := 0x0A
def carriageReturn : UInt8 := 0x0D

def endsRecord (b : UInt8) : Bool := b == lineFeed || b == carriageReturn

/-- A place in a file: records, lines and bytes before it. Lines are counted from one. -/
structure Position where
  record : Nat := 0
  line : Nat := 1
  byte : Nat := 0
  deriving DecidableEq, Repr

def Position.advance (p : Position) (b : UInt8) : Position :=
  { p with line := p.line + (if b == lineFeed then 1 else 0), byte := p.byte + 1 }

/-- A record and the place where the one before it ends. -/
structure Record where
  position : Position
  fields : List Bytes
  deriving DecidableEq, Repr

/-- What is read next: a record, a field, the rest of a plain or a quoted field, or what follows a
quote in a quoted field. -/
inductive Mode where
  | record
  | field
  | plain
  | quoted
  | quoteSeen
  deriving DecidableEq, Repr

/-- The record that is being read, its fields and the bytes of the last of them in reverse. -/
structure Partial where
  mode : Mode := .record
  bytes : Bytes := []
  fields : List Bytes := []
  deriving DecidableEq, Repr

namespace Partial

def push (p : Partial) (mode : Mode) (b : UInt8) : Partial :=
  { p with mode := mode, bytes := b :: p.bytes }

def endField (p : Partial) : Partial :=
  { mode := .field, bytes := [], fields := p.bytes.reverse :: p.fields }

def finish (p : Partial) : List Bytes := (p.bytes.reverse :: p.fields).reverse

/-- Reads a byte outside quotes; `true` if it ends the record. -/
def stepPlain (p : Partial) (b : UInt8) : Partial × Bool :=
  if b == comma then (p.endField, false)
  else if endsRecord b then (p, true)
  else (p.push .plain b, false)

def step (p : Partial) (b : UInt8) : Partial × Bool :=
  match p.mode with
  | .record =>
    if endsRecord b then (p, false)
    else if b == quote then ({ p with mode := .quoted }, false)
    else p.stepPlain b
  | .field => if b == quote then ({ p with mode := .quoted }, false) else p.stepPlain b
  | .plain => p.stepPlain b
  | .quoted =>
    if b == quote then ({ p with mode := .quoteSeen }, false) else (p.push .quoted b, false)
  | .quoteSeen => if b == quote then (p.push .quoted b, false) else p.stepPlain b

end Partial

/-- The records of the bytes behind `here`, where the record being read starts at `start`. -/
def scan (p : Partial) (start here : Position) : Bytes → List Record
  | [] => if p.mode = .record then [] else [⟨start, p.finish⟩]
  | b :: bs =>
    let here := here.advance b
    match p.step b with
    | (p, false) => scan p start here bs
    | (p, true) =>
      let here := { here with record := here.record + 1 }
      ⟨start, p.finish⟩ :: scan {} here here bs

/-- The records of a file. A byte order mark in front is skipped. -/
def records : Bytes → List Record
  | 0xEF :: 0xBB :: 0xBF :: bs => scan {} {} { byte := 3 } bs
  | bs => scan {} {} {} bs

end Csv
end LinkShelf
