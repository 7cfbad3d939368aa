import Mathlib.Data.Nat.Bitwise
import Segmentation.Proofs.Descriptor.Fields

namespace Segmentation

namespace Descriptor

variable (d : Descriptor)

def isPaged : Bool := d.granularity.contains .pages

def unit : Nat := if d.isPaged then 4096 else 1

end Descriptor

end Segmentation
