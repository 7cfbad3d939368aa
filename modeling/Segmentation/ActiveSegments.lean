import Segmentation.SegmentError

namespace Segmentation

structure ActiveSegments where
  code : Selector
  data : Selector
  table : TablePointer
  deriving DecidableEq

namespace ActiveSegments

def zero : ActiveSegments := ⟨⟨0⟩, ⟨0⟩, .zero⟩

def check (expected observed : ActiveSegments) : Except SegmentError Unit :=
  if observed.code ≠ expected.code then
    .error (.selectorMismatch "CS" expected.code observed.code)
  else if observed.data ≠ expected.data then
    .error (.selectorMismatch "DS" expected.data observed.data)
  else if observed.table ≠ expected.table then
    .error (.tablePointerMismatch expected.table observed.table)
  else .ok ()

def debug (s : ActiveSegments) (o : Outline) : String :=
  o.record "ActiveSegments"
    [("code", s.code.debug o), ("data", s.data.debug o), ("table_base", s.table.base.debug o),
      ("table_limit", Numeral.decimal s.table.limit.toNat)]

end ActiveSegments

end Segmentation
