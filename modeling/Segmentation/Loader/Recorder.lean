import Segmentation.Loader

namespace Segmentation

structure Report where
  code : Option Selector
  data : Option Selector
  base : Option Address
  limit : Option UInt16
  deriving DecidableEq

def Report.none : Report := ⟨.none, .none, .none, .none⟩

structure Recorder where
  given : ActiveSegments
  report : Report
  deriving DecidableEq

namespace Recorder

def blank : Recorder := ⟨.zero, .none⟩

def segments (r : Recorder) : ActiveSegments where
  code := r.report.code.getD r.given.code
  data := r.report.data.getD r.given.data
  table := ⟨r.report.base.getD r.given.table.base, r.report.limit.getD r.given.table.limit⟩

def loader : Loader Recorder where
  loadTable p r := { r with given.table := p }
  reloadSegments code data r := { r with given.code := code, given.data := data }
  active r := (r.segments, r)

theorem segments_given (s : ActiveSegments) : segments ⟨s, .none⟩ = s := rfl

end Recorder

end Segmentation
