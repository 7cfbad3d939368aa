import Segmentation.Flags

/-! Segment descriptors: 64 bits in which a base, a limit and two flag bytes are interleaved. From
the lowest bit on these are limit 0-15, base 0-23, the access byte, limit 16-19, the granularity
flags and base 24-31. -/

namespace Segmentation

structure Descriptor where
  raw : UInt64
  deriving DecidableEq

namespace Descriptor

def null : Descriptor := ⟨0⟩

def size : Nat := 8

def maxLimit : UInt32 := 0xFFFFF

/-- Places the fields. Only the lowest twenty bits of the limit and the upper half of the
granularity byte have a place. -/
def encode (base limit : UInt32) (access : AccessFlags) (granularity : GranularityFlags) :
    Descriptor :=
  ⟨(limit &&& 0xFFFF).toUInt64
    ||| (base &&& 0xFFFF).toUInt64 <<< 16
    ||| ((base >>> 16) &&& 0xFF).toUInt64 <<< 32
    ||| access.bits.toUInt64 <<< 40
    ||| ((limit >>> 16) &&& 0xF).toUInt64 <<< 48
    ||| (granularity.bits &&& Flags.granularityMask).toUInt64 <<< 48
    ||| ((base >>> 24) &&& 0xFF).toUInt64 <<< 56⟩

def limitLow (d : Descriptor) : UInt16 := d.raw.toUInt16

def baseLow (d : Descriptor) : UInt16 := (d.raw >>> 16).toUInt16

def baseMiddle (d : Descriptor) : UInt8 := (d.raw >>> 32).toUInt8

def accessByte (d : Descriptor) : UInt8 := (d.raw >>> 40).toUInt8

def granularityByte (d : Descriptor) : UInt8 := (d.raw >>> 48).toUInt8

def baseHigh (d : Descriptor) : UInt8 := (d.raw >>> 56).toUInt8

def base (d : Descriptor) : UInt32 :=
  d.baseLow.toUInt32 ||| d.baseMiddle.toUInt32 <<< 16 ||| d.baseHigh.toUInt32 <<< 24

def limit (d : Descriptor) : UInt32 :=
  d.limitLow.toUInt32 ||| (d.granularityByte &&& 0x0F).toUInt32 <<< 16

def access (d : Descriptor) : AccessFlags := ⟨d.accessByte⟩

def granularity (d : Descriptor) : GranularityFlags :=
  ⟨d.granularityByte &&& Flags.granularityMask⟩

/-- The offset of the last byte that the segment covers. -/
def effectiveLimit (d : Descriptor) : UInt64 :=
  if d.granularity.contains .pages then d.limit.toUInt64 <<< 12 ||| 0xFFF else d.limit.toUInt64

def isNull (d : Descriptor) : Bool := d.raw = 0

def isPresent (d : Descriptor) : Bool := d.access.contains .present

def isCode (d : Descriptor) : Bool :=
  d.access.contains (.present ||| .system ||| .executable)

def isData (d : Descriptor) : Bool :=
  d.access.contains (.present ||| .system ||| .readWrite) &&
    !d.access.contains .executable

def privilege (d : Descriptor) : Privilege := d.access.privilege

def toBytes (d : Descriptor) : Vector UInt8 size :=
  #v[d.raw.toUInt8, (d.raw >>> 8).toUInt8, (d.raw >>> 16).toUInt8, (d.raw >>> 24).toUInt8,
    (d.raw >>> 32).toUInt8, (d.raw >>> 40).toUInt8, (d.raw >>> 48).toUInt8, (d.raw >>> 56).toUInt8]

def ofBytes (b : Vector UInt8 size) : Descriptor :=
  ⟨b[0].toUInt64 ||| b[1].toUInt64 <<< 8 ||| b[2].toUInt64 <<< 16 ||| b[3].toUInt64 <<< 24
    ||| b[4].toUInt64 <<< 32 ||| b[5].toUInt64 <<< 40 ||| b[6].toUInt64 <<< 48
    ||| b[7].toUInt64 <<< 56⟩

def text (d : Descriptor) : String := Numeral.fixedHex 16 d.raw.toNat

def debug (d : Descriptor) (o : Outline) : String :=
  o.record "Descriptor"
    [("base", Numeral.hex d.base.toNat), ("limit", Numeral.hex d.limit.toNat),
      ("access", d.access.debug o), ("granularity", d.granularity.debug o)]

end Descriptor

end Segmentation
