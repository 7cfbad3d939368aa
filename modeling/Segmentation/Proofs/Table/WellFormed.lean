import Segmentation.Proofs.Table.Kernel

/-! What holds of a table at all times. The slots past the last one written are null as well, so
that a write that leaves a gap brings nothing else to light. -/

namespace Segmentation

theorem Descriptor.isNull_iff (d : Descriptor) : d.isNull = true ↔ d = .null := by
  obtain ⟨raw⟩ := d
  simp [isNull, null]

namespace Table

structure WellFormed (n : Capacity) (t : Table) : Prop where
  size_eq : t.slots.size = n.slots
  len_pos : 0 < t.len
  len_le : t.len ≤ n.slots
  first_null : t.slots[0]? = some .null
  rest_null : ∀ k, t.len ≤ k → k < n.slots → t.slots[k]? = some .null
  loaded_populated : t.loaded = true → 1 < t.len

/-- How a table comes about, and the entries that it then has. -/
inductive Origin (n : Capacity) (base : Address) : List Descriptor → Table → Prop
  | fresh : Origin n base [.null] (new n base)
  | adopted {entries : List Descriptor} {t : Table} (made : ofEntries n base entries = .ok t) :
      Origin n base entries t
  | kernel {σ : Type} [Journal σ] {m : Mode} {w w' : σ} {t : Table}
      (made : Table.kernel n base m w = .ok t w') :
      Origin n base [.null, .kernelCode m, .kernelData m, .userCode m, .userData m] t

def filled (n : Capacity) (base : Address) (entries : List Descriptor) : Table where
  base := base
  slots := entries.toArray ++ Array.replicate (n.slots - entries.length) .null
  len := entries.length
  loaded := false

theorem getElem?_filled (n : Capacity) (base : Address) (entries : List Descriptor) {k : Nat}
    (h : k < n.slots) : (filled n base entries).slots[k]? = some (entries.getD k .null) := by
  by_cases hk : k < entries.length
  · simp [filled, Array.getElem?_append, hk]
  · have hrest : k - entries.length < n.slots - entries.length := by omega
    simp [filled, Array.getElem?_append, hk, hrest]

theorem size_filled (n : Capacity) (base : Address) (entries : List Descriptor)
    (h : entries.length ≤ n.slots) : (filled n base entries).slots.size = n.slots := by
  simp only [filled, Array.size_append, List.size_toArray, Array.size_replicate]
  exact Nat.add_sub_of_le h

@[simp] theorem entries_filled (n : Capacity) (base : Address) (entries : List Descriptor) :
    (filled n base entries).entries = entries := by
  simp [filled, Table.entries]

theorem get?_filled (n : Capacity) (base : Address) (entries : List Descriptor) (k : Nat) :
    (filled n base entries).get? k = entries[k]? := by
  rw [← getElem?_entries, entries_filled]

theorem stage_filled (n : Capacity) (base : Address) (entries : List Descriptor) :
    (filled n base entries).stage = if 1 < entries.length then .populated else .uninitialized := rfl

theorem slots_ext {n : Nat} {a b : Array Descriptor} (ha : a.size = n) (hb : b.size = n)
    (h : ∀ k, k < n → a[k]? = b[k]?) : a = b := by
  apply Array.ext_getElem?
  intro k
  by_cases hk : k < n
  · exact h k hk
  · rw [Array.getElem?_eq_none (by omega), Array.getElem?_eq_none (by omega)]

theorem new_eq_filled (n : Capacity) (base : Address) : new n base = filled n base [.null] := by
  have hslots : (new n base).slots = (filled n base [.null]).slots := by
    apply slots_ext (n := n.slots) (by simp [new]) (size_filled n base [.null] n.pos)
    intro k hk
    rw [getElem?_filled n base [.null] hk]
    cases k <;> simp [new, hk]
  change Table.mk base (new n base).slots 1 false = _
  rw [hslots]
  rfl

theorem write_filled (n : Capacity) (base : Address) (entries : List Descriptor) (d : Descriptor)
    (h : entries.length < n.slots) :
    (filled n base entries).write entries.length d = filled n base (entries ++ [d]) := by
  have hsize := size_filled n base entries (Nat.le_of_lt h)
  have hslots : (filled n base entries).slots.setIfInBounds entries.length d =
      (filled n base (entries ++ [d])).slots := by
    apply slots_ext (n := n.slots)
    · rwa [Array.size_setIfInBounds]
    · apply size_filled
      rwa [List.length_append, List.length_singleton]
    · intro k hk
      have hlast : (entries ++ [d]).getD k .null =
          if entries.length = k then d else entries.getD k .null := by
        simp only [List.getD_eq_getElem?_getD, List.getElem?_append]
        grind
      rw [getElem?_filled n base (entries ++ [d]) hk, Array.getElem?_setIfInBounds,
        getElem?_filled n base entries hk, hsize, if_pos h, hlast]
      split <;> rfl
  change Table.mk base _ (max entries.length (entries.length + 1)) false = _
  rw [hslots, Nat.max_eq_right (Nat.le_succ _)]
  simp only [filled, List.length_append, List.length_singleton]

theorem ofEntries_eq (n : Capacity) (base : Address) (entries : List Descriptor) :
    ofEntries n base entries =
      if entries[0]? ≠ some .null then .error .missingNullDescriptor
      else if n.slots < entries.length then .error (.tableFull n.slots)
      else .ok (filled n base entries) := by
  cases entries with
  | nil => rfl
  | cons first rest =>
    by_cases h : first = .null
    · subst h
      rfl
    · have hnull : first.isNull = false := by
        rw [Bool.eq_false_iff, ne_eq, first.isNull_iff]
        exact h
      simp [ofEntries, hnull, h]

theorem writeAll_filled (n : Capacity) (base : Address) (entries ds : List Descriptor)
    (h : entries.length + ds.length ≤ n.slots) :
    writeAll ((ds.zipIdx entries.length).map Prod.swap) (filled n base entries) =
      filled n base (entries ++ ds) := by
  induction ds generalizing entries with
  | nil => rw [List.append_nil]; rfl
  | cons d ds ih =>
    rw [List.length_cons] at h
    change writeAll ((ds.zipIdx (entries.length + 1)).map Prod.swap)
      ((filled n base entries).write entries.length d) = _
    have hlen : (entries ++ [d]).length = entries.length + 1 := by
      rw [List.length_append, List.length_singleton]
    rw [write_filled n base entries d (by omega), ← hlen, ih (entries ++ [d]) (by omega),
      List.append_assoc]
    rfl

theorem writeAll_flatWrites (n : Capacity) (base : Address) (m : Mode) (h : 5 ≤ n.slots) :
    writeAll (flatWrites m) (new n base) =
      filled n base [.null, .kernelCode m, .kernelData m, .userCode m, .userData m] := by
  rw [new_eq_filled]
  exact writeAll_filled n base [.null]
    [.kernelCode m, .kernelData m, .userCode m, .userData m] h

theorem Origin.eq_filled {n : Capacity} {base : Address} {entries : List Descriptor} {t : Table}
    (h : Origin n base entries t) :
    t = filled n base entries ∧ entries[0]? = some .null ∧ entries.length ≤ n.slots := by
  cases h with
  | fresh => exact ⟨new_eq_filled n base, rfl, n.pos⟩
  | adopted made =>
    rw [ofEntries_eq] at made
    split at made
    · cases made
    · next hfirst =>
      split at made
      · cases made
      · next hlen =>
        cases made
        exact ⟨rfl, Decidable.not_not.mp hfirst, Nat.le_of_not_lt hlen⟩
  | @kernel _ _ m w w' _ made =>
    rcases kernel_cases n base m w with ⟨rs, hok, hroom⟩ | ⟨e, rs, herror, -⟩
    · rw [hok] at made
      cases made
      exact ⟨writeAll_flatWrites n base m hroom, rfl, hroom⟩
    · rw [herror] at made
      cases made

theorem WellFormed.filled {n : Capacity} {base : Address} {entries : List Descriptor}
    (hfirst : entries[0]? = some .null) (hlen : entries.length ≤ n.slots) :
    WellFormed n (filled n base entries) where
  size_eq := size_filled n base entries hlen
  len_pos := (List.getElem?_eq_some_iff.mp hfirst).1
  len_le := hlen
  first_null := by
    rw [getElem?_filled n base entries n.pos, List.getD_eq_getElem?_getD, hfirst]
    rfl
  rest_null k hk hlt := by
    have hk : entries.length ≤ k := hk
    rw [getElem?_filled n base entries hlt, List.getD_eq_getElem?_getD,
      List.getElem?_eq_none hk]
    rfl
  loaded_populated := nofun

theorem Origin.wellFormed {n : Capacity} {base : Address} {entries : List Descriptor} {t : Table}
    (h : Origin n base entries t) : WellFormed n t := by
  obtain ⟨rfl, hfirst, hlen⟩ := h.eq_filled
  exact .filled hfirst hlen

def markLoaded (t : Table) : Table := { t with loaded := true }

namespace WellFormed

variable {n : Capacity} {t : Table}

theorem capacity_eq (h : WellFormed n t) : t.capacity = n.slots := h.size_eq

theorem len_le_max (h : WellFormed n t) : t.len ≤ 8192 := Nat.le_trans h.len_le n.le_max

theorem toNat_len (h : WellFormed n t) : t.len.toUInt16.toNat = t.len :=
  UInt16.toNat_ofNat_of_lt' (Nat.lt_of_le_of_lt h.len_le_max (by decide))

theorem write (h : WellFormed n t) {index : Nat} (d : Descriptor) (pos : 0 < index)
    (lt : index < n.slots) : WellFormed n (t.write index d) where
  size_eq := (Array.size_setIfInBounds ..).trans h.size_eq
  len_pos := Nat.lt_of_lt_of_le h.len_pos (Nat.le_max_left ..)
  len_le := Nat.max_le.mpr ⟨h.len_le, lt⟩
  first_null := by
    have hne : index ≠ 0 := Nat.ne_of_gt pos
    simp only [Table.write, Array.getElem?_setIfInBounds, if_neg hne]
    exact h.first_null
  rest_null k hk hlt := by
    have hk : max t.len (index + 1) ≤ k := hk
    have hne : index ≠ k := by omega
    simp only [Table.write, Array.getElem?_setIfInBounds, if_neg hne]
    exact h.rest_null k (Nat.le_trans (Nat.le_max_left ..) hk) hlt
  loaded_populated := nofun

theorem markLoaded (h : WellFormed n t) (populated : 1 < t.len) : WellFormed n t.markLoaded :=
  { h with loaded_populated := fun _ => populated }

theorem get?_isSome_iff (h : WellFormed n t) (k : Nat) : (t.get? k).isSome = true ↔ k < t.len := by
  by_cases hk : k < t.len
  · have hsize : k < t.slots.size := by
      have := h.len_le
      rw [h.size_eq]
      omega
    simp [get?, hk, hsize]
  · simp [get?, hk]

end WellFormed

end Table

end Segmentation
