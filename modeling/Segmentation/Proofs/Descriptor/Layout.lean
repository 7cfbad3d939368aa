import Mathlib.Algebra.BigOperators.Ring.List
import Mathlib.Algebra.Ring.Nat
import Segmentation.Proofs.Descriptor.Fields

namespace Segmentation

structure BitField where
  width : Nat
  value : Nat

namespace BitField

def Fits (f : BitField) : Prop := f.value < 2 ^ f.width

/-- Each field moved up to where the one before it ends, the first of them to bit `k`. -/
def placed : (k : Nat) → List BitField → List Nat
  | _, [] => []
  | k, f :: fs => 2 ^ k * f.value :: placed (k + f.width) fs

variable {k : Nat} {fs : List BitField}

theorem dvd_of_mem_placed {x : Nat} (mem : x ∈ placed k fs) : 2 ^ k ∣ x := by
  induction fs generalizing k with
  | nil => cases mem
  | cons f fs ih =>
    rcases List.mem_cons.mp mem with rfl | later
    · exact Nat.dvd_mul_right ..
    · exact Nat.dvd_trans (Nat.pow_dvd_pow 2 (Nat.le_add_right k f.width)) (ih later)

theorem Fits.placed_lt {f : BitField} (h : f.Fits) (k : Nat) :
    2 ^ k * f.value < 2 ^ (k + f.width) := by
  rw [Nat.pow_add]
  exact Nat.mul_lt_mul_of_pos_left h (Nat.two_pow_pos k)

theorem and_eq_zero_of_dvd {a b n : Nat} (lt : a < 2 ^ n) (dvd : 2 ^ n ∣ b) : a &&& b = 0 := by
  have low : (a &&& b) % 2 ^ n = 0 := by
    rw [Nat.and_mod_two_pow, Nat.mod_eq_zero_of_dvd dvd, Nat.and_zero]
  have high : (a &&& b) / 2 ^ n = 0 := by
    rw [Nat.and_div_two_pow, Nat.div_eq_of_lt lt, Nat.zero_and]
  rw [← Nat.div_add_mod (a &&& b) (2 ^ n), low, high]
  rfl

theorem pairwise_placed (fits : ∀ f ∈ fs, f.Fits) :
    (placed k fs).Pairwise fun x y => x &&& y = 0 := by
  induction fs generalizing k with
  | nil => exact .nil
  | cons f fs ih =>
    obtain ⟨first, rest⟩ := List.forall_mem_cons.mp fits
    refine .cons (fun y later => ?_) (ih rest)
    exact and_eq_zero_of_dvd (first.placed_lt k) (dvd_of_mem_placed later)

theorem sum_placed (fits : ∀ f ∈ fs, f.Fits) :
    (placed k fs).sum = (placed k fs).foldr (· ||| ·) 0 := by
  induction fs generalizing k with
  | nil => rfl
  | cons f fs ih =>
    obtain ⟨first, rest⟩ := List.forall_mem_cons.mp fits
    -- What comes later is a multiple of a power that `f` does not get to.
    obtain ⟨above, eq⟩ : 2 ^ (k + f.width) ∣ (placed (k + f.width) fs).sum :=
      List.dvd_sum fun x later => dvd_of_mem_placed later
    rw [placed, List.sum_cons, List.foldr_cons, ← ih rest, eq, Nat.mul_comm _ above,
      or_mul_two_pow _ (first.placed_lt k)]

end BitField

namespace Descriptor

section Encode

variable (base limit : UInt32) (access : AccessFlags) (granularity : GranularityFlags)

def fields : List BitField :=
  [⟨16, limit.toNat % 2 ^ 16⟩, ⟨24, base.toNat % 2 ^ 24⟩, ⟨8, access.bits.toNat⟩,
    ⟨4, limit.toNat / 2 ^ 16⟩, ⟨4, granularity.bits.toNat / 2 ^ 4⟩, ⟨8, base.toNat / 2 ^ 24⟩]

def terms : List Nat :=
  [limit.toNat % 2 ^ 16, 2 ^ 16 * (base.toNat % 2 ^ 24), 2 ^ 40 * access.bits.toNat,
    2 ^ 48 * (limit.toNat / 2 ^ 16), 2 ^ 52 * (granularity.bits.toNat / 2 ^ 4),
    2 ^ 56 * (base.toNat / 2 ^ 24)]

theorem terms_eq_placed :
    terms base limit access granularity =
      BitField.placed 0 (fields base limit access granularity) := by
  rw [terms, fields, BitField.placed, Nat.pow_zero, Nat.one_mul]
  rfl

theorem fits_fields (h : limit ≤ maxLimit) :
    ∀ f ∈ fields base limit access granularity, f.Fits := by
  have hbase := base.toNat_lt
  have haccess := access.bits.toNat_lt
  have hgranularity := granularity.bits.toNat_lt
  have hlimit : limit.toNat ≤ 0xFFFFF := UInt32.le_iff_toNat_le.mp h
  simp only [fields, BitField.Fits, List.forall_mem_cons, List.not_mem_nil, false_implies,
    implies_true, and_true]
  omega

theorem toNat_encode_eq_sum (h : limit ≤ maxLimit) :
    (encode base limit access granularity).raw.toNat =
      (terms base limit access granularity).sum := by
  have hlimit : limit.toNat ≤ 0xFFFFF := UInt32.le_iff_toNat_le.mp h
  have htop : limit.toNat / 2 ^ 16 < 2 ^ 4 := by omega
  rw [toNat_encode, Nat.mod_eq_of_lt htop]
  simp only [terms, List.sum_cons, List.sum_nil]
  omega

end Encode

section Bytes

theorem toNat_getElem_toBytes (d : Descriptor) :
    ∀ (i : Nat) (h : i < size), d.toBytes[i].toNat = d.raw.toNat / 2 ^ (8 * i) % 2 ^ 8
  | 0, _ => by
    rw [Nat.mul_zero, Nat.pow_zero, Nat.div_one]
    exact UInt64.toNat_toUInt8 d.raw
  | 1, _ => toNat_byte d.raw 8
  | 2, _ => toNat_byte d.raw 16
  | 3, _ => toNat_byte d.raw 24
  | 4, _ => toNat_byte d.raw 32
  | 5, _ => toNat_byte d.raw 40
  | 6, _ => toNat_byte d.raw 48
  | 7, _ => toNat_byte d.raw 56

theorem toNat_ofBytes (b : Vector UInt8 size) :
    (ofBytes b).raw.toNat =
      b[0].toNat + b[1].toNat * 2 ^ 8 + b[2].toNat * 2 ^ 16 + b[3].toNat * 2 ^ 24 +
        b[4].toNat * 2 ^ 32 + b[5].toNat * 2 ^ 40 + b[6].toNat * 2 ^ 48 + b[7].toNat * 2 ^ 56 := by
  have h₀ := b[0].toNat_lt
  have h₁ := b[1].toNat_lt
  have h₂ := b[2].toNat_lt
  have h₃ := b[3].toNat_lt
  have h₄ := b[4].toNat_lt
  have h₅ := b[5].toNat_lt
  have h₆ := b[6].toNat_lt
  have h₇ := b[7].toNat_lt
  simp only [ofBytes, UInt64.toNat_or, UInt64.toNat_shiftLeft, UInt8.toNat_toUInt64,
    Nat.shiftLeft_eq, UInt64.reduceToNat, Nat.reduceMod]
  simp (disch := omega) only [Nat.mod_eq_of_lt, or_mul_two_pow]

theorem ofBytes_toBytes (d : Descriptor) : ofBytes d.toBytes = d := by
  have hraw := d.raw.toNat_lt
  have hnumber : (ofBytes d.toBytes).raw = d.raw := by
    rw [← UInt64.toNat_inj, toNat_ofBytes]
    simp only [toNat_getElem_toBytes]
    omega
  exact congrArg Descriptor.mk hnumber

theorem toBytes_ofBytes (b : Vector UInt8 size) : (ofBytes b).toBytes = b := by
  have h₀ := b[0].toNat_lt
  have h₁ := b[1].toNat_lt
  have h₂ := b[2].toNat_lt
  have h₃ := b[3].toNat_lt
  have h₄ := b[4].toNat_lt
  have h₅ := b[5].toNat_lt
  have h₆ := b[6].toNat_lt
  have h₇ := b[7].toNat_lt
  apply Vector.ext
  intro i h
  rw [← UInt8.toNat_inj, toNat_getElem_toBytes, toNat_ofBytes]
  match i, h with
  | 0, _ | 1, _ | 2, _ | 3, _ | 4, _ | 5, _ | 6, _ | 7, _ => omega

def octets (d : Descriptor) : List Nat :=
  [d.limitLow.toNat % 256, d.limitLow.toNat / 256, d.baseLow.toNat % 256, d.baseLow.toNat / 256,
    d.baseMiddle.toNat, d.accessByte.toNat, d.granularityByte.toNat, d.baseHigh.toNat]

theorem toNat_toBytes (d : Descriptor) : d.toBytes.toList.map UInt8.toNat = d.octets := by
  have limitLow : d.limitLow.toNat = d.raw.toNat % 2 ^ 16 := UInt64.toNat_toUInt16 d.raw
  have baseLow : d.baseLow.toNat = d.raw.toNat / 2 ^ 16 % 2 ^ 16 := by
    rw [Descriptor.baseLow, UInt64.toNat_toUInt16, UInt64.toNat_shiftRight,
      Nat.shiftRight_eq_div_pow]
    rfl
  have byte (i : Nat) (h : i < size) := d.toNat_getElem_toBytes i h
  have first : d.toBytes[0].toNat = d.limitLow.toNat % 256 := by
    rw [byte, limitLow]
    omega
  have second : d.toBytes[1].toNat = d.limitLow.toNat / 256 := by
    rw [byte, limitLow]
    omega
  have third : d.toBytes[2].toNat = d.baseLow.toNat % 256 := by
    rw [byte, baseLow]
    omega
  have fourth : d.toBytes[3].toNat = d.baseLow.toNat / 256 := by
    rw [byte, baseLow]
    omega
  rw [octets, ← first, ← second, ← third, ← fourth]
  rfl

example : (Descriptor.mk 0x125AFF345678BCDE).toBytes.toList.map UInt8.toNat =
    [0xDE, 0xBC, 0x78, 0x56, 0x34, 0xFF, 0x5A, 0x12] := rfl

end Bytes

structure LaidOut (base limit : UInt32) (access : AccessFlags) (granularity : GranularityFlags)
    (d : Descriptor) : Prop where
  number_eq : d.raw.toNat = (terms base limit access granularity).sum
  disjoint : (terms base limit access granularity).Pairwise fun x y => x &&& y = 0
  joined : d.raw.toNat = (terms base limit access granularity).foldr (· ||| ·) 0

structure Encodes (base limit : UInt32) (access : AccessFlags) (granularity : GranularityFlags) :
    Prop where
  refused_iff : ∀ e, ofFields base limit access granularity = .error e ↔
    0xFFFFF < limit.toNat ∧ e = .limitTooLarge limit
  aborted_iff : ∀ e, ofFieldsOrAbort base limit access granularity = .error e ↔
    0xFFFFF < limit.toNat ∧ e = .limitTooWide
  made : limit.toNat ≤ 0xFFFFF → ∃ d, ofFields base limit access granularity = .ok d ∧
    ofFieldsOrAbort base limit access granularity = .ok d ∧
      LaidOut base limit access granularity d

theorem laidOut_encode (base : UInt32) {limit : UInt32} (access : AccessFlags)
    (granularity : GranularityFlags) (h : limit ≤ maxLimit) :
    LaidOut base limit access granularity (encode base limit access granularity) := by
  have fits := fits_fields base limit access granularity h
  have number := toNat_encode_eq_sum base limit access granularity h
  constructor
  · exact number
  · rw [terms_eq_placed]
    exact BitField.pairwise_placed fits
  · rw [number, terms_eq_placed]
    exact BitField.sum_placed fits

theorem encodes (base limit : UInt32) (access : AccessFlags) (granularity : GranularityFlags) :
    Encodes base limit access granularity := by
  by_cases h : limit ≤ maxLimit
  · have fits : ¬0xFFFFF < limit.toNat := Nat.not_lt.mpr (UInt32.le_iff_toNat_le.mp h)
    have checked : ofFields base limit access granularity =
        .ok (encode base limit access granularity) := if_neg (UInt32.not_lt.mpr h)
    have vouched := ofFieldsOrAbort_of_le base limit access granularity h
    constructor
    · rw [checked]
      exact fun e => ⟨nofun, fun wide => absurd wide.1 fits⟩
    · rw [vouched]
      exact fun e => ⟨nofun, fun wide => absurd wide.1 fits⟩
    · exact fun _ => ⟨_, checked, vouched, laidOut_encode base access granularity h⟩
  · have wide : 0xFFFFF < limit.toNat := UInt32.lt_iff_toNat_lt.mp (UInt32.not_le.mp h)
    have refused : ofFields base limit access granularity = .error (.limitTooLarge limit) :=
      if_pos (UInt32.not_le.mp h)
    have aborted : ofFieldsOrAbort base limit access granularity = .error .limitTooWide := if_neg h
    constructor
    · rw [refused]
      exact fun e => ⟨fun eq => ⟨wide, (Except.error.inj eq).symm⟩, fun eq => congrArg _ eq.2.symm⟩
    · rw [aborted]
      exact fun e => ⟨fun eq => ⟨wide, (Except.error.inj eq).symm⟩, fun eq => congrArg _ eq.2.symm⟩
    · exact fun fits => absurd wide (Nat.not_lt.mpr fits)

theorem descriptor_layout :
    (∀ base limit access granularity, Encodes base limit access granularity) ∧
      (∀ d : Descriptor, d.toBytes.toList.map UInt8.toNat = d.octets ∧ ofBytes d.toBytes = d) ∧
      ∀ b, (ofBytes b).toBytes = b :=
  ⟨encodes, fun d => ⟨d.toNat_toBytes, d.ofBytes_toBytes⟩, toBytes_ofBytes⟩

end Descriptor

end Segmentation
