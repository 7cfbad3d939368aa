import Segmentation.Proofs.Table.Bulk

namespace Segmentation

variable {σ : Type} [Journal σ]

namespace Table

section Filled

variable {n : Capacity} {t : Table}

theorem WellFormed.eq_filled (wf : t.WellFormed n) :
    t = { Table.filled n t.base t.entries with loaded := t.loaded } := by
  have slots : (Table.filled n t.base t.entries).slots = t.slots := wf.slots_filled t.base
  have len : (Table.filled n t.base t.entries).len = t.len := wf.length_entries
  change t = Table.mk t.base (Table.filled n t.base t.entries).slots _ t.loaded
  rw [slots, len]

theorem WellFormed.write_at_len (wf : t.WellFormed n) (room : t.len < n.slots) (d : Descriptor) :
    t.write t.len d = Table.filled n t.base (t.entries ++ [d]) := by
  have len : t.entries.length = t.len := wf.length_entries
  have same := congrArg (fun u => Table.write u t.len d) wf.eq_filled
  have appended := write_filled n t.base t.entries d (len.trans_lt room)
  rw [len] at appended
  exact same.trans appended

theorem WellFormed.writeAll_appended (wf : t.WellFormed n) {ds : List Descriptor}
    (nonempty : ds ≠ []) (room : t.len + ds.length ≤ n.slots) :
    writeAll (appended t.len ds) t = Table.filled n t.base (t.entries ++ ds) := by
  cases ds with
  | nil => exact absurd rfl nonempty
  | cons d ds =>
    rw [List.length_cons] at room
    have len : (t.entries ++ [d]).length = t.len + 1 := by
      rw [List.length_append, wf.length_entries, List.length_singleton]
    change writeAll (appended (t.len + 1) ds) (t.write t.len d) = _
    rw [wf.write_at_len (by omega), ← len]
    have rest := writeAll_filled n t.base (t.entries ++ [d]) ds (by omega)
    rwa [List.append_assoc] at rest

theorem len_writeAll_appended (t : Table) (ds : List Descriptor) :
    (writeAll (appended t.len ds) t).len = t.len + ds.length := by
  induction ds generalizing t with
  | nil => rfl
  | cons d ds ih =>
    have rest := ih (t.write t.len d)
    rw [len_write_len] at rest
    rw [List.length_cons, Nat.add_comm ds.length, ← Nat.add_assoc]
    exact rest

end Filled

section Pushes

variable {n : Capacity} {t : Table}

theorem run_pushes_refused (wf : t.WellFormed n) {ds : List Descriptor}
    (full : ds ≠ [] → n.slots ≤ t.len) (loaders : Nat → Loader σ) (w : σ) :
    Action.run loaders (t, w) (ds.map .push) = (t, w) ∧
      (Action.history loaders (t, w) (ds.map .push)).map (·.answer) =
        List.replicate ds.length (.refused (.tableFull n.slots)) := by
  induction ds with
  | nil => exact ⟨rfl, rfl⟩
  | cons d ds ih =>
    have full := full (List.cons_ne_nil d ds)
    have first : (Action.push d).perform loaders (t, w) =
        (.refused (.tableFull n.slots), t, w) := by
      rw [Action.perform_push loaders t w wf, if_pos full]
    obtain ⟨run, answers⟩ := ih fun _ => full
    rw [List.map_cons, Action.history, List.map_cons, Action.answer_moment, first, answers]
    refine ⟨?_, rfl⟩
    change Action.run loaders ((Action.push d).perform loaders (t, w)).2 (ds.map .push) = _
    rw [first]
    exact run

def fitting (n : Capacity) (t : Table) (ds : List Descriptor) : Nat :=
  min ds.length (n.slots - t.len)

theorem length_take_fitting (n : Capacity) (t : Table) (ds : List Descriptor) :
    (ds.take (t.fitting n ds)).length = t.fitting n ds :=
  List.length_take_of_le (Nat.min_le_left ..)

theorem WellFormed.len_add_fitting_le {n : Capacity} {t : Table} (wf : t.WellFormed n)
    (ds : List Descriptor) : t.len + t.fitting n ds ≤ n.slots := by
  have len_le := wf.len_le
  rw [fitting]
  omega

theorem toNat_indices (len : Nat) {k : Nat} (le : len + k ≤ 8192) :
    ((List.range' len k).map Nat.toUInt16).map UInt16.toNat = List.range' len k := by
  rw [List.map_map]
  refine (List.map_congr_left fun i mem => ?_).trans (List.map_id _)
  have lt : i < 8192 := Nat.lt_of_lt_of_le (List.mem_range'_1.mp mem).2 le
  exact UInt16.toNat_ofNat_of_lt' (Nat.lt_trans lt (by decide))

theorem run_pushes_fitting (wf : t.WellFormed n) (ds : List Descriptor) (loaders : Nat → Loader σ)
    (w : σ) :
    (Action.run loaders (t, w) (ds.map .push)).1 =
        writeAll (appended t.len (ds.take (t.fitting n ds))) t ∧
      ∃ indices : List UInt16,
        indices.map UInt16.toNat = List.range' t.len (t.fitting n ds) ∧
          (Action.history loaders (t, w) (ds.map .push)).map (·.answer) = indices.map .index ++
            List.replicate (ds.length - t.fitting n ds) (.refused (.tableFull n.slots)) := by
  -- The pushes are cut in two where the table is full.
  have within := wf.len_add_fitting_le ds
  have fits := length_take_fitting n t ds
  obtain ⟨first, answers⟩ := run_pushes wf (fits.symm ▸ within) loaders w
  have wf' := wf.run loaders w ((ds.take (t.fitting n ds)).map .push)
  rw [first] at wf'
  have full : ds.drop (t.fitting n ds) ≠ [] →
      n.slots ≤ (writeAll (appended t.len (ds.take (t.fitting n ds))) t).len := by
    intro more
    rw [ne_eq, List.drop_eq_nil_iff] at more
    rw [len_writeAll_appended, fits]
    rw [fitting] at more ⊢
    omega
  obtain ⟨rest, refusals⟩ := run_pushes_refused wf' full loaders
    (Journal.logAll (records (appended t.len (ds.take (t.fitting n ds)))) w)
  have split : ds.map Action.push =
      (ds.take (t.fitting n ds)).map .push ++ (ds.drop (t.fitting n ds)).map .push := by
    rw [← List.map_append, List.take_append_drop]
  rw [split, Action.run_append, Action.history_append, List.map_append, first, rest, answers,
    refusals, fits, List.length_drop]
  refine ⟨rfl, (List.range' t.len (t.fitting n ds)).map Nat.toUInt16,
    toNat_indices t.len (Nat.le_trans within n.le_max), ?_⟩
  rw [List.map_map]
  rfl

end Pushes

structure FilledBy (n : Capacity) (ds : List Descriptor) (t t' : Table) (answers : List Answer) :
    Prop where
  answers_eq : ∃ indices : List UInt16,
    indices.map UInt16.toNat = List.range' t.len (t.fitting n ds) ∧
      answers = indices.map .index ++
        List.replicate (ds.length - t.fitting n ds) (.refused (.tableFull n.slots))
  entries_eq : t'.entries = t.entries ++ ds.take (t.fitting n ds)
  populated : 0 < t.fitting n ds → t'.stage = .populated
  unchanged : t.fitting n ds = 0 → t' = t

end Table

theorem pushes_fill {n : Capacity} {s : Table × σ} (h : s.1.Reachable n)
    (loaders : Nat → Loader σ) (ds : List Descriptor) :
    Table.FilledBy n ds s.1 (Action.run loaders s (ds.map .push)).1
      ((Action.history loaders s (ds.map .push)).map (·.answer)) := by
  obtain ⟨t, w⟩ := s
  have wf : t.WellFormed n := h.wellFormed
  have fits := Table.length_take_fitting n t ds
  obtain ⟨run, indices⟩ := Table.run_pushes_fitting wf ds loaders w
  by_cases none : t.fitting n ds = 0
  · have same : (Action.run loaders (t, w) (ds.map .push)).1 = t := by
      rw [run, none]
      rfl
    refine ⟨indices, ?_, fun some => absurd none (Nat.ne_of_gt some), fun _ => same⟩
    rw [same, none, List.take_zero, List.append_nil]
  · have pos : 0 < t.fitting n ds := Nat.pos_of_ne_zero none
    have filled : (Action.run loaders (t, w) (ds.map .push)).1 =
        Table.filled n t.base (t.entries ++ ds.take (t.fitting n ds)) := by
      rw [run, wf.writeAll_appended (List.ne_nil_of_length_pos (fits.symm ▸ pos))
        (fits.symm ▸ wf.len_add_fitting_le ds)]
    refine ⟨indices, ?_, fun _ => ?_, fun zero => absurd zero none⟩
    · rw [filled, Table.entries_filled]
    · have len_pos := wf.len_pos
      have more : 1 < (t.entries ++ ds.take (t.fitting n ds)).length := by
        rw [List.length_append, wf.length_entries, fits]
        omega
      rw [filled, Table.stage_filled, if_pos more]

theorem pushes_fill_loaded :
    let n : Capacity := ⟨6, by decide, by decide⟩
    let ds : List Descriptor := [.userData .longMode, .null, .kernelCode .longMode]
    let s := Action.run Bench.loader
      (Table.writeAll (Table.flatWrites .longMode) (.new n (.table 0)), .empty 1)
      [.load 0 .kernelCode .kernelData]
    s.1.Reachable n ∧ s.1.stage = .loaded ∧ s.1.fitting n ds = 1 ∧
      Table.FilledBy n ds s.1 (Action.run Bench.loader s (ds.map .push)).1
        ((Action.history Bench.loader s (ds.map .push)).map (·.answer)) := by
  intro n ds s
  have made : (Table.writeAll (Table.flatWrites .longMode) (.new n (.table 0))).Reachable n :=
    .kernel n (.table 0) .longMode (by decide)
  have reachable : s.1.Reachable n := made.run Bench.loader _ _
  exact ⟨reachable, by decide, by decide, pushes_fill reachable Bench.loader ds⟩

end Segmentation
