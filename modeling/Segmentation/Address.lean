import Segmentation.Text.Numeral
import Segmentation.Text.Outline

/-! Linear addresses, and the pointer by which the processor finds a table. Where a table lies is
not for this library to choose, so its address is known by the table's number only. -/

namespace Segmentation

inductive Address where
  | table (k : Nat)
  | number (value : UInt64)
  deriving DecidableEq

namespace Address

def isCanonical (value : UInt64) : Bool := value >>> 47 = 0 || value >>> 47 = 0x1FFFF

structure NotCanonical where
  value : UInt64
  deriving DecidableEq

def NotCanonical.name : String := "VirtAddrNotValid"

def NotCanonical.message (e : NotCanonical) : String :=
  NotCanonical.name ++ "(" ++ Numeral.hex e.value.toNat ++ ")"

def ofNumber (value : UInt64) : Except NotCanonical Address :=
  if isCanonical value then .ok (.number value) else .error ⟨value⟩

def isAligned : Address → Bool
  | .table _ => true
  | .number value => value % 8 = 0

def hex : Address → String
  | .table k => "<table" ++ Numeral.decimal k ++ ">"
  | .number value => Numeral.hex value.toNat

def decimal : Address → String
  | .table k => "<table" ++ Numeral.decimal k ++ ">"
  | .number value => Numeral.decimal value.toNat

def debug (a : Address) (o : Outline) : String := o.tuple "VirtAddr" [a.hex]

end Address

/-- The limit is the offset of the last byte of the table. -/
@[ext]
structure TablePointer where
  base : Address
  limit : UInt16
  deriving DecidableEq

namespace TablePointer

def size : Nat := 10

def zero : TablePointer := ⟨.number 0, 0⟩

end TablePointer

end Segmentation
