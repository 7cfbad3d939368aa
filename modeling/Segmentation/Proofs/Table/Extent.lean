import Segmentation.Bench
import Segmentation.Proofs.Table.Reachable

namespace Segmentation

namespace Table

structure PointsExactly (t : Table) : Prop where
  size_pos : 0 < t.len * Descriptor.size
  size_le : t.len * Descriptor.size - 1 ≤ 65535
  limit_eq : t.pointer.limit.toNat = 8 * t.len - 1
  limit_max_iff : t.pointer.limit = 65535 ↔ t.len = 8192
  len_eq : (t.pointer.limit.toNat + 1) / 8 = t.len
  covers_iff : ∀ i, 8 * i + 7 ≤ t.pointer.limit.toNat ↔ (t.get? i).isSome = true
  limit_le_run : ∀ {σ : Type} [Journal σ] (loaders : Nat → Loader σ) (w : σ) (as : List Action),
    t.pointer.limit ≤ (Action.run loaders (t, w) as).1.pointer.limit

namespace WellFormed

variable {n : Capacity} {t t' : Table}

theorem toNat_limit (wf : t.WellFormed n) : t.pointer.limit.toNat = 8 * t.len - 1 :=
  limit_pointer wf.len_pos wf.len_le_max

theorem limit_le_iff (wf : t.WellFormed n) (wf' : t'.WellFormed n) :
    t.pointer.limit ≤ t'.pointer.limit ↔ t.len ≤ t'.len := by
  have pos := wf.len_pos
  have pos' := wf'.len_pos
  rw [UInt16.le_iff_toNat_le, wf.toNat_limit, wf'.toNat_limit]
  omega

theorem covers_iff (wf : t.WellFormed n) (i : Nat) :
    8 * i + 7 ≤ t.pointer.limit.toNat ↔ (t.get? i).isSome = true := by
  have pos := wf.len_pos
  rw [wf.get?_isSome_iff, wf.toNat_limit]
  omega

end WellFormed

end Table

theorem pointer_exact (n : Capacity) :
    (∀ base, (Table.new n base).pointer.limit = 7) ∧
      ∀ t, Table.Reachable n t → t.PointsExactly := by
  refine ⟨fun base => rfl, fun t reachable => ?_⟩
  have wf : t.WellFormed n := reachable.wellFormed
  have pos := wf.len_pos
  have le := wf.len_le_max
  have limit := wf.toNat_limit
  constructor
  · exact Nat.mul_pos pos (by decide)
  · rw [Descriptor.size]
    omega
  · exact limit
  · rw [← UInt16.toNat_inj, limit]
    change 8 * t.len - 1 = 65535 ↔ _
    omega
  · omega
  · exact wf.covers_iff
  · intro σ _ loaders w as
    rw [wf.limit_le_iff (wf.run loaders w as)]
    exact wf.len_le_run loaders w as

theorem pointer_exact_full :
    let n : Capacity := ⟨8192, by decide, by decide⟩
    let s := Action.run Bench.loader (.new n (.table 0), .empty 1) [.set 8191 .null]
    s.1.Reachable n ∧ s.1.PointsExactly ∧ s.1.pointer.limit = 65535 := by
  intro n s
  have made : (Table.new n (.table 0)).Reachable n := .made .fresh
  have reachable : s.1.Reachable n := made.run Bench.loader _ _
  have points := (pointer_exact n).2 s.1 reachable
  have written : s = _ := congrArg Prod.snd
    (Action.perform_set_of_lt Bench.loader _ _ made.wellFormed (by decide) (by decide) .null)
  have full : s.1.len = 8192 := congrArg (fun s => s.1.len) written
  exact ⟨reachable, points, points.limit_max_iff.mpr full⟩

end Segmentation
