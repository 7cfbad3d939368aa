import Segmentation.Proofs.Table.WellFormed

namespace Segmentation.Table

variable {σ : Type} [Journal σ]

def flatRecords (m : Mode) : List Record :=
  [.written 1 (.kernelCode m), .written 2 (.kernelData m), .written 3 (.userCode m),
    .written 4 (.userData m)]

theorem kernel_eq_filled (n : Capacity) (base : Address) (m : Mode) (w : σ) (h : 5 ≤ n.slots) :
    kernel n base m w =
      .ok (filled n base [.null, .kernelCode m, .kernelData m, .userCode m, .userData m])
        (Journal.logAll (flatRecords m) w) := by
  rw [kernel_of_le n base m w h, writeAll_flatWrites n base m h]
  rfl

example : kernel ⟨3, by decide, by decide⟩ (.table 0) .longMode (#[] : Array Record) =
    .error (.indexOutOfRange 3 3)
      #[.written 1 (.kernelCode .longMode), .written 2 (.kernelData .longMode)] := rfl

end Segmentation.Table
