import Mathlib.Data.Nat.Bitwise
import Segmentation.Selector

namespace Segmentation

theorem Privilege.level_lt (p : Privilege) : p.level < 4 := by
  cases p <;> decide

namespace Selector

theorem index_eq (s : Selector) : s.index = s.raw.toNat / 8 := by
  simp [index, UInt16.toNat_shiftRight, Nat.shiftRight_eq_div_pow]

theorem level_rpl (s : Selector) : s.rpl.level = s.raw.toNat % 4 := Privilege.level_ofBits _

theorem isGlobal_iff (s : Selector) : s.isGlobal = true ↔ s.raw.toNat / 4 % 2 = 0 := by
  have hand : s.raw.toNat &&& 4 = (s.raw.toNat.testBit 2).toNat * 4 :=
    Nat.and_two_pow s.raw.toNat 2
  have hbit : s.raw.toNat.testBit 2 = decide (s.raw.toNat / 4 % 2 = 1) :=
    Nat.testBit_eq_decide_div_mod_eq
  rw [hbit] at hand
  simp only [isGlobal, localBit, decide_eq_true_eq, ← UInt16.toNat_inj, UInt16.toNat_and]
  change s.raw.toNat &&& 4 = 0 ↔ _
  rw [hand]
  by_cases h : s.raw.toNat / 4 % 2 = 1
  · simp [h]
  · simp [h]
    omega

theorem raw_eq_of_ring0 {s : Selector} (global : s.isGlobal = true) (ring : s.rpl = .ring0) :
    s.raw.toNat = 8 * s.index := by
  have hbit := s.isGlobal_iff.mp global
  have hlevel := s.level_rpl
  rw [ring] at hlevel
  rw [index_eq]
  simp only [Privilege.level] at hlevel
  omega

section OfIndex

variable {i : Nat} (h : i < 8192) (r : Privilege)

include h

theorem toNat_ofIndex : (ofIndex i.toUInt16 r).raw.toNat = 8 * i + r.level := by
  have hlevel : r.level < 2 ^ 3 := Nat.lt_trans r.level_lt (by decide)
  have hindex : i.toUInt16.toNat = i := UInt16.toNat_ofNat_of_lt' (Nat.lt_trans h (by decide))
  have hring : r.level.toUInt16.toNat = r.level :=
    UInt16.toNat_ofNat_of_lt' (Nat.lt_trans hlevel (by decide))
  have hshift : i * 2 ^ 3 % 2 ^ 16 = 2 ^ 3 * i := by omega
  rw [ofIndex, UInt16.toNat_or, UInt16.toNat_shiftLeft, hindex, hring]
  change i <<< 3 % 2 ^ 16 ||| r.level = _
  rw [Nat.shiftLeft_eq, hshift, ← Nat.two_pow_add_eq_or_of_lt hlevel]

theorem index_ofIndex : (ofIndex i.toUInt16 r).index = i := by
  have hlevel := r.level_lt
  rw [index_eq, toNat_ofIndex h]
  omega

theorem isGlobal_ofIndex : (ofIndex i.toUInt16 r).isGlobal = true := by
  have hlevel := r.level_lt
  rw [isGlobal_iff, toNat_ofIndex h]
  omega

theorem rpl_ofIndex : (ofIndex i.toUInt16 r).rpl = r := by
  have hlevel := r.level_lt
  have hring : (ofIndex i.toUInt16 r).rpl.level = r.level := by
    rw [level_rpl, toNat_ofIndex h]
    omega
  rw [← Privilege.ofBits_level (rpl _), hring, Privilege.ofBits_level]

end OfIndex

end Selector

end Segmentation
