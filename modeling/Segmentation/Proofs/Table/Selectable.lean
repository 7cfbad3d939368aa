import Segmentation.Proofs.Table.Accept
import Segmentation.Proofs.Table.WellFormed

namespace Segmentation.Table

section Lookup

variable {t : Table} {i : Nat} {d : Descriptor} (found : t.get? i = some d) (pos : 0 < i)
  (lt : i < 8192)

include found pos lt

theorem lookup_ofIndex (r : Privilege) : t.lookup (.ofIndex i.toUInt16 r) = .ok d := by
  rw [lookup_eq_ok_iff, Selector.index_ofIndex lt]
  exact ⟨Selector.isGlobal_ofIndex lt r, Nat.ne_of_gt pos, found⟩

theorem names_ofIndex {r : Privilege} {kind : Descriptor → Bool} (hkind : kind d = true)
    (ring : d.privilege = r) : t.Names (.ofIndex i.toUInt16 r) kind := by
  refine ⟨d, lookup_ofIndex found pos lt r, hkind, ?_⟩
  rw [Selector.rpl_ofIndex lt, ring]

end Lookup

variable {n : Capacity} {t : Table}

namespace WellFormed

variable {i : Nat} {d : Descriptor} (wf : t.WellFormed n) (found : t.get? i = some d)

include wf found

theorem index_lt_max : i < 8192 := Nat.lt_of_lt_of_le (index_lt_len found) wf.len_le_max

theorem index_pos (present : d.isPresent = true) : 0 < i := by
  refine Nat.pos_of_ne_zero ?_
  rintro rfl
  rw [get?, if_pos wf.len_pos, wf.first_null] at found
  cases found
  cases present

end WellFormed

end Segmentation.Table
