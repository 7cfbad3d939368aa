import Segmentation.Descriptor

namespace Segmentation

theorem Flags.contains_or {k : FlagByte} (a b c : Flags k) :
    a.contains (b ||| c) = (a.contains b && a.contains c) := by
  have bitwise (x y z : UInt8) : x &&& (y ||| z) = y ||| z ↔ x &&& y = y ∧ x &&& z = z := by
    simp only [← UInt8.toBitVec_inj, UInt8.toBitVec_and, UInt8.toBitVec_or,
      BitVec.eq_of_getLsbD_eq_iff]
    grind
  simp only [contains, bits_or, bitwise, Bool.decide_and]

namespace Descriptor

structure RunsKernel (d : Descriptor) : Prop where
  present : d.isPresent = true
  system : d.access.contains .system = true
  executable : d.access.contains .executable = true
  privilege : d.privilege = .ring0

structure HoldsKernel (d : Descriptor) : Prop where
  present : d.isPresent = true
  system : d.access.contains .system = true
  writable : d.access.contains .readWrite = true
  not_executable : d.access.contains .executable = false
  privilege : d.privilege = .ring0

theorem runsKernel_iff (d : Descriptor) :
    d.RunsKernel ↔ d.isCode = true ∧ d.privilege = .ring0 := by
  rw [isCode, Flags.contains_or, Flags.contains_or]
  constructor
  · intro h
    have hpresent : d.access.contains .present = true := h.present
    rw [hpresent, h.system, h.executable]
    exact ⟨rfl, h.privilege⟩
  · rintro ⟨h, ring⟩
    simp only [Bool.and_eq_true] at h
    exact ⟨h.1.1, h.1.2, h.2, ring⟩

theorem holdsKernel_iff (d : Descriptor) :
    d.HoldsKernel ↔ d.isData = true ∧ d.privilege = .ring0 := by
  rw [isData, Flags.contains_or, Flags.contains_or]
  constructor
  · intro h
    have hpresent : d.access.contains .present = true := h.present
    rw [hpresent, h.system, h.writable, h.not_executable]
    exact ⟨rfl, h.privilege⟩
  · rintro ⟨h, ring⟩
    simp only [Bool.and_eq_true, Bool.not_eq_true'] at h
    exact ⟨h.1.1.1, h.1.1.2, h.1.2, h.2, ring⟩

end Descriptor

end Segmentation
