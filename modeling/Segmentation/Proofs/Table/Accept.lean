import Segmentation.Proofs.Descriptor
import Segmentation.Proofs.Selector
import Segmentation.Table.Load

namespace Segmentation.Table

theorem bind_eq_ok {x : Except ε α} {f : α → Except ε β} {b : β} :
    (x >>= f) = .ok b ↔ ∃ a, x = .ok a ∧ f a = .ok b := by
  cases x with
  | error e => exact ⟨nofun, nofun⟩
  | ok a => exact ⟨fun h => ⟨a, rfl, h⟩, fun ⟨_, rfl, h⟩ => h⟩

/-- The selector refers to an entry of this kind and asks for the privilege that the entry has. -/
def Names (t : Table) (s : Selector) (kind : Descriptor → Bool) : Prop :=
  ∃ d, t.lookup s = .ok d ∧ kind d = true ∧ d.privilege = s.rpl

theorem requireKind_eq_ok_iff {t : Table} {kind : Descriptor → Bool}
    {refusal : Selector → SegmentError} {s : Selector} :
    t.requireKind kind refusal s = .ok () ↔ t.Names s kind := by
  rw [requireKind, bind_eq_ok]
  refine exists_congr fun d => and_congr_right fun _ => ?_
  split <;> simp_all [pure, Except.pure, throw, throwThe, MonadExceptOf.throw]

theorem requireKernel_eq_ok_iff {s : Selector} : requireKernel s = .ok () ↔ s.rpl = .ring0 := by
  unfold requireKernel
  split <;> simp_all

theorem requireAligned_eq_ok_iff {a : Address} :
    requireAligned a = .ok () ↔ a.isAligned = true := by
  unfold requireAligned
  split <;> simp_all

theorem accept_eq_ok_iff {t : Table} {code data : Selector} {s : ActiveSegments} :
    t.accept code data = .ok s ↔
      1 < t.len ∧ t.base.isAligned = true ∧ t.Names code Descriptor.isCode ∧
        t.Names data Descriptor.isData ∧ code.rpl = .ring0 ∧ data.rpl = .ring0 ∧
        s = ⟨code, data, t.pointer⟩ := by
  rw [accept, requireCode, requireData]
  constructor
  · intro h
    by_cases hlen : t.len ≤ 1
    · rw [if_pos hlen] at h
      cases h
    · rw [if_neg hlen] at h
      obtain ⟨_, haligned, h⟩ := bind_eq_ok.mp h
      obtain ⟨_, hcode, h⟩ := bind_eq_ok.mp h
      obtain ⟨_, hdata, h⟩ := bind_eq_ok.mp h
      obtain ⟨_, hcodeRing, h⟩ := bind_eq_ok.mp h
      obtain ⟨_, hdataRing, h⟩ := bind_eq_ok.mp h
      exact ⟨Nat.lt_of_not_le hlen, requireAligned_eq_ok_iff.mp haligned,
        requireKind_eq_ok_iff.mp hcode, requireKind_eq_ok_iff.mp hdata,
        requireKernel_eq_ok_iff.mp hcodeRing, requireKernel_eq_ok_iff.mp hdataRing,
        (Except.ok.inj h).symm⟩
  · rintro ⟨hlen, haligned, hcode, hdata, hcodeRing, hdataRing, rfl⟩
    rw [if_neg (Nat.not_le_of_lt hlen), requireAligned_eq_ok_iff.mpr haligned,
      requireKind_eq_ok_iff.mpr hcode, requireKind_eq_ok_iff.mpr hdata,
      requireKernel_eq_ok_iff.mpr hcodeRing, requireKernel_eq_ok_iff.mpr hdataRing]
    rfl

theorem accept_loaded (t : Table) (loaded : Bool) (code data : Selector) :
    accept { t with loaded := loaded } code data = t.accept code data := rfl

theorem accept_segments {t : Table} {code data : Selector} {s : ActiveSegments}
    (h : t.accept code data = .ok s) :
    (code = s.code ∧ data = s.data) ∧ t.accept s.code s.data = .ok s := by
  obtain ⟨-, -, -, -, -, -, hs⟩ := accept_eq_ok_iff.mp h
  have hcode : s.code = code := congrArg ActiveSegments.code hs
  have hdata : s.data = data := congrArg ActiveSegments.data hs
  rw [hcode, hdata]
  exact ⟨⟨rfl, rfl⟩, h⟩

theorem limit_pointer {t : Table} (pos : 0 < t.len) (le : t.len ≤ 8192) :
    t.pointer.limit.toNat = 8 * t.len - 1 := by
  have hfits : t.len * Descriptor.size - 1 < 2 ^ 16 := by
    rw [Descriptor.size]
    omega
  rw [pointer, Nat.toUInt16_eq, UInt16.toNat_ofNat_of_lt' hfits, Descriptor.size, Nat.mul_comm]

/-- A selector that ring 0 can put into a segment register once the table is loaded. Its whole
entry lies below the limit that the processor is given. -/
structure Loadable (t : Table) (s : Selector) (kind : Descriptor → Prop) : Prop where
  isGlobal : s.isGlobal = true
  ring : s.rpl = .ring0
  not_null : s.index ≠ 0
  within : s.raw.toNat + 7 ≤ t.pointer.limit.toNat
  entry : ∃ d, t.get? s.index = some d ∧ kind d

theorem index_lt_len {t : Table} {k : Nat} {d : Descriptor} (h : t.get? k = some d) :
    k < t.len := by
  by_contra hge
  rw [get?, if_neg hge] at h
  cases h

theorem loadable_of_lookup {t : Table} {s : Selector} {d : Descriptor} {kind : Descriptor → Prop}
    (le : t.len ≤ 8192) (ring : s.rpl = .ring0) (hlookup : t.lookup s = .ok d) (hkind : kind d) :
    t.Loadable s kind := by
  obtain ⟨global, index_ne, hget⟩ := lookup_eq_ok_iff.mp hlookup
  have hlt := index_lt_len hget
  refine ⟨global, ring, index_ne, ?_, d, hget, hkind⟩
  rw [limit_pointer (by omega) le, Selector.raw_eq_of_ring0 global ring]
  omega

theorem accept_loadable {t : Table} {code data : Selector} {s : ActiveSegments}
    (le : t.len ≤ 8192) (h : t.accept code data = .ok s) :
    s = ⟨code, data, t.pointer⟩ ∧ t.Loadable code Descriptor.RunsKernel ∧
      t.Loadable data Descriptor.HoldsKernel := by
  obtain ⟨-, -, hcode, hdata, codeRing, dataRing, hs⟩ := accept_eq_ok_iff.mp h
  obtain ⟨c, hc, isCode, hcRing⟩ := hcode
  obtain ⟨d, hd, isData, hdRing⟩ := hdata
  rw [codeRing] at hcRing
  rw [dataRing] at hdRing
  exact ⟨hs, loadable_of_lookup le codeRing hc (c.runsKernel_iff.mpr ⟨isCode, hcRing⟩),
    loadable_of_lookup le dataRing hd (d.holdsKernel_iff.mpr ⟨isData, hdRing⟩)⟩

end Segmentation.Table
