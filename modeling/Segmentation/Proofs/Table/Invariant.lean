import Segmentation.Bench
import Segmentation.Proofs.Table.Moment

namespace Segmentation

theorem Table.WellFormed.isEmpty_eq {n : Capacity} {t : Table} (h : t.WellFormed n) :
    t.isEmpty = false := by
  rw [isEmpty, decide_eq_false_iff_not]
  exact Nat.ne_of_gt h.len_pos

theorem Table.WellFormed.length_entries {n : Capacity} {t : Table} (h : t.WellFormed n) :
    t.entries.length = t.len := by
  apply Table.length_entries
  rw [h.capacity_eq]
  exact h.len_le

theorem run_invariant {σ : Type} [Journal σ] {n : Capacity} {base : Address}
    {entries : List Descriptor} {t : Table} (origin : Table.Origin n base entries t)
    (loaders : Nat → Loader σ) (w : σ) (as : List Action) :
    let t' := (Action.run loaders (t, w) as).1
    t'.WellFormed n ∧ t'.isEmpty = false ∧ t'.entries.length = t'.len ∧
      ∀ k, (t'.get? k).isSome = true ↔ k < t'.len := by
  have h := origin.wellFormed.run loaders w as
  exact ⟨h, h.isEmpty_eq, h.length_entries, h.get?_isSome_iff⟩

theorem run_invariant_gap :
    let n : Capacity := ⟨8, by decide, by decide⟩
    let t := (Action.run Bench.loader (.new n (.table 0), .empty 1)
      [.set 1 (.kernelCode .longMode), .set 2 (.kernelData .longMode),
        .load 0 .kernelCode .kernelData, .set 6 (.userCode .longMode)]).1
    Table.Origin n (.table 0) [.null] (.new n (.table 0)) ∧ t.WellFormed n ∧
      t.isEmpty = false ∧ t.entries.length = t.len ∧
      ∀ k, (t.get? k).isSome = true ↔ k < t.len :=
  ⟨.fresh, run_invariant .fresh Bench.loader _ _⟩

end Segmentation
