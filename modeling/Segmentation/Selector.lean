import Segmentation.Privilege
import Segmentation.Text.Outline
import Segmentation.Text.Numeral

/-! Segment selectors: an index above a table indicator above a requested privilege. -/

namespace Segmentation

structure Selector where
  raw : UInt16
  deriving DecidableEq

namespace Selector

/-- The index loses the bits that do not fit above the three lowest. -/
def ofIndex (index : UInt16) (rpl : Privilege) : Selector :=
  ⟨index <<< 3 ||| rpl.level.toUInt16⟩

def localBit : UInt16 := 0x4

def index (s : Selector) : Nat := (s.raw >>> 3).toNat

def isGlobal (s : Selector) : Bool := s.raw &&& localBit = 0

def rpl (s : Selector) : Privilege := .ofBits s.raw.toNat

def nullIndex : UInt16 := 0

def kernelCodeIndex : UInt16 := 1

def kernelDataIndex : UInt16 := 2

def userCodeIndex : UInt16 := 3

def userDataIndex : UInt16 := 4

def kernelCode : Selector := .ofIndex kernelCodeIndex .ring0

def kernelData : Selector := .ofIndex kernelDataIndex .ring0

def userCode : Selector := .ofIndex userCodeIndex .ring3

def userData : Selector := .ofIndex userDataIndex .ring3

theorem kernelCode_eq : kernelCode = ⟨0x08⟩ := rfl

theorem kernelData_eq : kernelData = ⟨0x10⟩ := rfl

theorem userCode_eq : userCode = ⟨0x1B⟩ := rfl

theorem userData_eq : userData = ⟨0x23⟩ := rfl

def hex (s : Selector) : String := Numeral.hex s.raw.toNat

def debug (s : Selector) (o : Outline) : String :=
  o.record "SegmentSelector" [("index", Numeral.decimal s.index), ("rpl", s.rpl.name)]

end Selector

end Segmentation
