import Mathlib.Algebra.Group.Nat.Defs
import Segmentation.Descriptor.Limit

namespace Segmentation

theorem or_mul_two_pow {a : Nat} (n : Nat) (h : a < 2 ^ n) (b : Nat) :
    a ||| b * 2 ^ n = a + b * 2 ^ n := by
  rw [Nat.or_comm, ← Nat.shiftLeft_eq, ← Nat.shiftLeft_add_eq_or_of_lt h, Nat.add_comm]

def Flags.placed (g : GranularityFlags) : GranularityFlags := ⟨g.bits &&& granularityMask⟩

theorem Flags.toNat_and_granularityMask (x : UInt8) :
    (x &&& granularityMask).toNat = x.toNat / 2 ^ 4 * 2 ^ 4 := by
  have hhigh : (x.toNat &&& 240) / 2 ^ 4 = x.toNat / 2 ^ 4 &&& 2 ^ 4 - 1 := Nat.and_div_two_pow
  have hlow : (x.toNat &&& 240) % 2 ^ 4 = x.toNat % 2 ^ 4 &&& 0 := Nat.and_mod_two_pow
  rw [Nat.and_two_pow_sub_one_eq_mod] at hhigh
  rw [Nat.and_zero] at hlow
  have hlt := x.toNat_lt
  change x.toNat &&& 240 = _
  omega

namespace Descriptor

theorem toNat_byte (raw k : UInt64) :
    (raw >>> k).toUInt8.toNat = raw.toNat / 2 ^ (k.toNat % 64) % 2 ^ 8 := by
  rw [UInt64.toNat_toUInt8, UInt64.toNat_shiftRight, Nat.shiftRight_eq_div_pow]

section Decode

variable (d : Descriptor)

theorem toNat_base :
    d.base.toNat = d.raw.toNat / 2 ^ 16 % 2 ^ 24 + d.raw.toNat / 2 ^ 56 * 2 ^ 24 := by
  have hraw := d.raw.toNat_lt
  simp only [base, baseLow, baseMiddle, baseHigh, UInt32.toNat_or, UInt32.toNat_shiftLeft,
    UInt16.toNat_toUInt32, UInt8.toNat_toUInt32, UInt64.toNat_toUInt16, UInt64.toNat_toUInt8,
    UInt64.toNat_shiftRight, Nat.shiftLeft_eq, Nat.shiftRight_eq_div_pow,
    UInt64.reduceToNat, UInt32.reduceToNat, Nat.reduceMod]
  simp (disch := omega) only [Nat.mod_eq_of_lt, or_mul_two_pow]
  omega

theorem toNat_granularityByte : d.granularityByte.toNat = d.raw.toNat / 2 ^ 48 % 2 ^ 8 :=
  toNat_byte d.raw 48

theorem toNat_limit :
    d.limit.toNat = d.raw.toNat % 2 ^ 16 + d.raw.toNat / 2 ^ 48 % 2 ^ 4 * 2 ^ 16 := by
  have hnibble : (d.granularityByte &&& 0x0F).toNat = d.granularityByte.toNat % 2 ^ 4 :=
    Nat.and_two_pow_sub_one_eq_mod _ 4
  simp only [limit, limitLow, UInt32.toNat_or, UInt32.toNat_shiftLeft, UInt16.toNat_toUInt32,
    UInt8.toNat_toUInt32, UInt64.toNat_toUInt16, hnibble, toNat_granularityByte, Nat.shiftLeft_eq,
    UInt32.reduceToNat, Nat.reduceMod]
  simp (disch := omega) only [Nat.mod_eq_of_lt, or_mul_two_pow]
  omega

theorem toNat_access : d.access.bits.toNat = d.raw.toNat / 2 ^ 40 % 2 ^ 8 :=
  toNat_byte d.raw 40

theorem toNat_granularity :
    d.granularity.bits.toNat = d.raw.toNat / 2 ^ 52 % 2 ^ 4 * 2 ^ 4 := by
  rw [granularity, Flags.toNat_and_granularityMask, toNat_granularityByte]
  omega

theorem limit_le_maxLimit : d.limit ≤ maxLimit := by
  rw [UInt32.le_iff_toNat_le, toNat_limit]
  change _ ≤ 0xFFFFF
  omega

end Decode

section Encode

variable (base limit : UInt32) (access : AccessFlags) (granularity : GranularityFlags)

theorem toNat_encode :
    (encode base limit access granularity).raw.toNat =
      limit.toNat % 2 ^ 16 + base.toNat % 2 ^ 24 * 2 ^ 16 + access.bits.toNat * 2 ^ 40 +
        limit.toNat / 2 ^ 16 % 2 ^ 4 * 2 ^ 48 + granularity.bits.toNat / 2 ^ 4 * 2 ^ 52 +
        base.toNat / 2 ^ 24 * 2 ^ 56 := by
  have hbase := base.toNat_lt
  have haccess := access.bits.toNat_lt
  have hgranularity := granularity.bits.toNat_lt
  have hmask₄ (x : Nat) : x &&& 0xF = x % 2 ^ 4 := Nat.and_two_pow_sub_one_eq_mod x 4
  have hmask₈ (x : Nat) : x &&& 0xFF = x % 2 ^ 8 := Nat.and_two_pow_sub_one_eq_mod x 8
  have hmask₁₆ (x : Nat) : x &&& 0xFFFF = x % 2 ^ 16 := Nat.and_two_pow_sub_one_eq_mod x 16
  have hflags : (granularity.bits &&& Flags.granularityMask).toNat * 2 ^ 48 =
      granularity.bits.toNat / 2 ^ 4 * 2 ^ 52 := by
    rw [Flags.toNat_and_granularityMask]
    omega
  simp only [encode, UInt64.toNat_or, UInt64.toNat_shiftLeft, UInt32.toNat_toUInt64,
    UInt8.toNat_toUInt64, UInt32.toNat_and, UInt32.toNat_shiftRight, Nat.shiftLeft_eq,
    Nat.shiftRight_eq_div_pow, UInt64.reduceToNat, UInt32.reduceToNat, Nat.reduceMod]
  rw [hmask₁₆, hmask₁₆, hmask₈, hmask₄, hmask₈, hflags]
  simp (disch := omega) only [Nat.mod_eq_of_lt, or_mul_two_pow]
  omega

theorem base_encode : (encode base limit access granularity).base = base := by
  have hbase := base.toNat_lt
  have haccess := access.bits.toNat_lt
  have hgranularity := granularity.bits.toNat_lt
  rw [← UInt32.toNat_inj, toNat_base, toNat_encode]
  omega

theorem limit_encode (h : limit ≤ maxLimit) :
    (encode base limit access granularity).limit = limit := by
  have hlimit : limit.toNat ≤ 0xFFFFF := UInt32.le_iff_toNat_le.mp h
  have haccess := access.bits.toNat_lt
  have hgranularity := granularity.bits.toNat_lt
  have htop : limit.toNat / 2 ^ 16 < 2 ^ 4 := by omega
  have hnumber := toNat_encode base limit access granularity
  rw [Nat.mod_eq_of_lt htop] at hnumber
  have hlow : (encode base limit access granularity).raw.toNat % 2 ^ 16 = limit.toNat % 2 ^ 16 := by
    omega
  have hhigh : (encode base limit access granularity).raw.toNat / 2 ^ 48 =
      limit.toNat / 2 ^ 16 + granularity.bits.toNat / 2 ^ 4 * 2 ^ 4 +
        base.toNat / 2 ^ 24 * 2 ^ 8 := by
    omega
  rw [← UInt32.toNat_inj, toNat_limit, hlow, hhigh]
  omega

theorem access_encode : (encode base limit access granularity).access = access := by
  have haccess := access.bits.toNat_lt
  have hgranularity := granularity.bits.toNat_lt
  have hbits : (encode base limit access granularity).access.bits = access.bits := by
    rw [← UInt8.toNat_inj, toNat_access, toNat_encode]
    omega
  exact congrArg Flags.mk hbits

theorem granularity_encode :
    (encode base limit access granularity).granularity = granularity.placed := by
  have haccess := access.bits.toNat_lt
  have hgranularity := granularity.bits.toNat_lt
  have hbits : (encode base limit access granularity).granularity.bits =
      granularity.placed.bits := by
    rw [← UInt8.toNat_inj, toNat_granularity, toNat_encode, Flags.placed,
      Flags.toNat_and_granularityMask]
    omega
  exact congrArg Flags.mk hbits

theorem ofFieldsOrAbort_of_le (h : limit ≤ maxLimit) :
    ofFieldsOrAbort base limit access granularity =
      .ok (encode base limit access granularity) := if_pos h

end Encode

theorem encode_fields (d : Descriptor) : encode d.base d.limit d.access d.granularity = d := by
  have hraw := d.raw.toNat_lt
  have hnumber : (encode d.base d.limit d.access d.granularity).raw = d.raw := by
    rw [← UInt64.toNat_inj, toNat_encode, toNat_base, toNat_limit, toNat_access,
      toNat_granularity]
    omega
  exact congrArg Descriptor.mk hnumber

theorem ext_fields {d e : Descriptor} (hbase : d.base = e.base) (hlimit : d.limit = e.limit)
    (haccess : d.access = e.access) (hgranularity : d.granularity = e.granularity) : d = e := by
  rw [← d.encode_fields, ← e.encode_fields, hbase, hlimit, haccess, hgranularity]

theorem encode_eq_encode_iff {base limit base' limit' : UInt32} {access access' : AccessFlags}
    {granularity granularity' : GranularityFlags} (h : limit ≤ maxLimit) (h' : limit' ≤ maxLimit) :
    encode base limit access granularity = encode base' limit' access' granularity' ↔
      base = base' ∧ limit = limit' ∧ access = access' ∧
        granularity.placed = granularity'.placed := by
  constructor
  · intro heq
    have hbase := congrArg Descriptor.base heq
    have hlimit := congrArg Descriptor.limit heq
    have haccess := congrArg Descriptor.access heq
    have hgranularity := congrArg Descriptor.granularity heq
    rw [base_encode, base_encode] at hbase
    rw [limit_encode _ _ _ _ h, limit_encode _ _ _ _ h'] at hlimit
    rw [access_encode, access_encode] at haccess
    rw [granularity_encode, granularity_encode] at hgranularity
    exact ⟨hbase, hlimit, haccess, hgranularity⟩
  · rintro ⟨rfl, rfl, rfl, hgranularity⟩
    apply ext_fields
    · rw [base_encode, base_encode]
    · rw [limit_encode _ _ _ _ h, limit_encode _ _ _ _ h]
    · rw [access_encode, access_encode]
    · rw [granularity_encode, granularity_encode, hgranularity]

theorem ofFieldsOrAbort_inverse :
    (∀ base limit access granularity, limit ≤ maxLimit →
      ∃ d, ofFieldsOrAbort base limit access granularity = .ok d ∧ d.base = base ∧
        d.limit = limit ∧ d.access = access ∧ d.granularity = granularity.placed) ∧
    (∀ d : Descriptor, d.limit ≤ maxLimit ∧
      ofFieldsOrAbort d.base d.limit d.access d.granularity = .ok d) ∧
    (∀ base limit access granularity base' limit' access' granularity',
      limit ≤ maxLimit → limit' ≤ maxLimit →
        (ofFieldsOrAbort base limit access granularity =
            ofFieldsOrAbort base' limit' access' granularity' ↔
          base = base' ∧ limit = limit' ∧ access = access' ∧
            granularity.placed = granularity'.placed)) ∧
    ∀ d, ∃ base limit access granularity, limit ≤ maxLimit ∧
      ofFieldsOrAbort base limit access granularity = .ok d := by
  have hown (d : Descriptor) : d.limit ≤ maxLimit ∧
      ofFieldsOrAbort d.base d.limit d.access d.granularity = .ok d := by
    rw [ofFieldsOrAbort_of_le _ _ _ _ d.limit_le_maxLimit, encode_fields]
    exact ⟨d.limit_le_maxLimit, rfl⟩
  refine ⟨?_, hown, ?_, fun d => ⟨_, _, _, _, hown d⟩⟩
  · intro base limit access granularity h
    exact ⟨_, ofFieldsOrAbort_of_le _ _ _ _ h, base_encode .., limit_encode _ _ _ _ h,
      access_encode .., granularity_encode ..⟩
  · intro base limit access granularity base' limit' access' granularity' h h'
    rw [ofFieldsOrAbort_of_le _ _ _ _ h, ofFieldsOrAbort_of_le _ _ _ _ h', Except.ok.injEq]
    exact encode_eq_encode_iff h h'

example : ofFieldsOrAbort 0x12345678 0xABCDE ⟨0xFF⟩ ⟨0x5F⟩ = .ok ⟨0x125AFF345678BCDE⟩ := rfl

end Descriptor

end Segmentation
