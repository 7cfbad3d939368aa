import Segmentation.Flat
import Segmentation.Table

namespace Segmentation.Table

variable {σ : Type} [Journal σ]

def writeFlat (m : Mode) : TableM σ Unit := do
  set Selector.kernelCodeIndex.toNat (.kernelCode m)
  set Selector.kernelDataIndex.toNat (.kernelData m)
  set Selector.userCodeIndex.toNat (.userCode m)
  set Selector.userDataIndex.toNat (.userData m)

def kernel (capacity : Capacity) (base : Address) (m : Mode) : EStateM SegmentError σ Table :=
  fun w =>
    match writeFlat m (new capacity base, w) with
    | .ok () (t, w) => .ok t w
    | .error e (_, w) => .error e w

end Segmentation.Table
