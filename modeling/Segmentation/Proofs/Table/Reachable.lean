import Segmentation.Proofs.Table.Moment

namespace Segmentation.Table

inductive Reachable (n : Capacity) : Table → Prop
  | made {base : Address} {entries : List Descriptor} {t : Table}
      (origin : Origin n base entries t) : Reachable n t
  | acted {σ : Type} [Journal σ] {t : Table} (earlier : Reachable n t)
      (loaders : Nat → Loader σ) (w : σ) (a : Action) :
      Reachable n (a.perform loaders (t, w)).2.1

namespace Reachable

variable {n : Capacity} {t : Table}

theorem wellFormed (h : Reachable n t) : t.WellFormed n := by
  induction h with
  | made origin => exact origin.wellFormed
  | acted earlier loaders w a ih => exact (leads_perform ih loaders w a).wellFormed ih

theorem kernel (n : Capacity) (base : Address) (m : Mode) (room : 5 ≤ n.slots) :
    Reachable n (writeAll (flatWrites m) (new n base)) :=
  .made (.kernel (kernel_of_le n base m (#[] : Array Record) room))

theorem run {σ : Type} [Journal σ] (h : Reachable n t) (loaders : Nat → Loader σ) (w : σ)
    (as : List Action) : Reachable n (Action.run loaders (t, w) as).1 := by
  induction as generalizing t w with
  | nil => exact h
  | cons a as ih => exact ih (h.acted loaders w a) _

end Reachable

end Segmentation.Table
