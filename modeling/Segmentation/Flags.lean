import Segmentation.Privilege
import Segmentation.Text.Numeral
import Segmentation.Text.Outline

namespace Segmentation

inductive FlagByte where
  | access | granularity
  deriving DecidableEq

structure Flags (k : FlagByte) where
  bits : UInt8
  deriving DecidableEq

abbrev AccessFlags := Flags .access

abbrev GranularityFlags := Flags .granularity

namespace Flags

def present : AccessFlags := ⟨0x80⟩

def ring0 : AccessFlags := ⟨0x00⟩

def ring3 : AccessFlags := ⟨0x60⟩

/-- Set for code and data, clear for system segments. -/
def system : AccessFlags := ⟨0x10⟩

def executable : AccessFlags := ⟨0x08⟩

/-- Conforming for code, expand-down for data. -/
def conforming : AccessFlags := ⟨0x04⟩

/-- Readable for code, writable for data. -/
def readWrite : AccessFlags := ⟨0x02⟩

def accessed : AccessFlags := ⟨0x01⟩

def privilegeMask : UInt8 := 0x60

def privilege (f : AccessFlags) : Privilege :=
  .ofBits ((f.bits &&& privilegeMask) >>> 5).toNat

/-- The limit counts pages of 4 KiB. -/
def pages : GranularityFlags := ⟨0x80⟩

def size32 : GranularityFlags := ⟨0x40⟩

def longMode : GranularityFlags := ⟨0x20⟩

/-- The half of the granularity byte that holds flags; the other half belongs to the limit. -/
def granularityMask : UInt8 := 0xF0

end Flags

namespace FlagByte

def typeName : FlagByte → String
  | .access => "AccessFlags"
  | .granularity => "GranularityFlags"

def named : FlagByte → List (String × UInt8)
  | .access =>
    [("PRESENT", Flags.present.bits), ("RING0", Flags.ring0.bits),
      ("RING3", Flags.ring3.bits), ("SYSTEM", Flags.system.bits),
      ("EXECUTABLE", Flags.executable.bits), ("CONFORMING", Flags.conforming.bits),
      ("READ_WRITE", Flags.readWrite.bits), ("ACCESSED", Flags.accessed.bits)]
  | .granularity =>
    [("GRANULARITY", Flags.pages.bits), ("SIZE_32", Flags.size32.bits),
      ("LONG_MODE", Flags.longMode.bits)]

def defined (k : FlagByte) : UInt8 := k.named.foldl (fun bits f => bits ||| f.2) 0

end FlagByte

namespace Flags

variable {k : FlagByte}

def all : Flags k := ⟨k.defined⟩

def ofBits? (bits : UInt8) : Option (Flags k) :=
  if bits &&& ~~~k.defined = 0 then some ⟨bits⟩ else none

def ofName? (name : String) : Option (Flags k) :=
  (k.named.find? (·.1 = name)).map fun f => ⟨f.2⟩

def truncate (a : Flags k) : Flags k := ⟨a.bits &&& k.defined⟩

def isEmpty (a : Flags k) : Bool := a.bits = 0

def contains (a b : Flags k) : Bool := a.bits &&& b.bits = b.bits

def intersects (a b : Flags k) : Bool := a.bits &&& b.bits ≠ 0

def isAll (a : Flags k) : Bool := a.contains all

def union (a b : Flags k) : Flags k := ⟨a.bits ||| b.bits⟩

instance : OrOp (Flags k) := ⟨union⟩

@[simp] theorem bits_or (a b : Flags k) : (a ||| b).bits = a.bits ||| b.bits := rfl

def inter (a b : Flags k) : Flags k := ⟨a.bits &&& b.bits⟩

def diff (a b : Flags k) : Flags k := ⟨a.bits &&& ~~~b.bits⟩

def symmDiff (a b : Flags k) : Flags k := ⟨a.bits ^^^ b.bits⟩

def complement (a : Flags k) : Flags k := ⟨~~~a.bits &&& k.defined⟩

/-- Goes through the named bits. A name is taken when all its bits are in the set and not all of
them have gone to earlier names. The second part is what no name took. -/
def split (bits : UInt8) :
    (left : UInt8) → List (String × UInt8) → List (String × UInt8) × UInt8
  | left, [] => ([], left)
  | left, f :: fs =>
    if bits &&& f.2 = f.2 ∧ left &&& f.2 ≠ 0 then
      let (taken, rest) := split bits (left &&& ~~~f.2) fs
      (f :: taken, rest)
    else split bits left fs

def names (a : Flags k) : List (String × UInt8) := (split a.bits a.bits k.named).1

def unnamed (a : Flags k) : UInt8 := (split a.bits a.bits k.named).2

def pieces (a : Flags k) : List UInt8 :=
  a.names.map (·.2) ++ if a.unnamed = 0 then [] else [a.unnamed]

def text (a : Flags k) : String :=
  if a.bits = 0 then "0x0"
  else " | ".intercalate (a.names.map (·.1) ++
    if a.unnamed = 0 then [] else [Numeral.hex a.unnamed.toNat])

def debug (a : Flags k) (o : Outline) : String := o.tuple k.typeName [a.text]

end Flags

end Segmentation
