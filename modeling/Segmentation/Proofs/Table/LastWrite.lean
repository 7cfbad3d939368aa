import Mathlib.Data.List.Induction
import Segmentation.Bench
import Segmentation.Proofs.Table.Moment

/-! A table as a map from indices to descriptors in which the last write wins. The map is told by
the answers of a run alone: an action that succeeds says which slot it wrote. -/

namespace Segmentation

variable {σ : Type} [Journal σ]

def lastWrite? (writes : List (Nat × Descriptor)) (k : Nat) : Option Descriptor :=
  (writes.reverse.find? fun x => x.1 = k).map (·.2)

theorem lastWrite?_concat (writes : List (Nat × Descriptor)) (x : Nat × Descriptor) (k : Nat) :
    lastWrite? (writes ++ [x]) k = if x.1 = k then some x.2 else lastWrite? writes k := by
  rw [lastWrite?, List.reverse_concat, List.find?_cons]
  by_cases h : x.1 = k
  · simp [h]
  · simp [h, lastWrite?]

def Action.writes (loaders : Nat → Loader σ) (s : Table × σ) (as : List Action) :
    List (Nat × Descriptor) :=
  (history loaders s as).filterMap Moment.written?

theorem Action.writes_concat (loaders : Nat → Loader σ) (s : Table × σ) (as : List Action)
    (a : Action) :
    writes loaders s (as ++ [a]) =
      writes loaders s as ++ (a.moment loaders (run loaders s as)).written?.toList := by
  rw [writes, history_concat, List.filterMap_append]
  cases h : (a.moment loaders (run loaders s as)).written? <;> simp [writes, h]

structure Holds (n : Capacity) (len : Nat) (entries : List Descriptor)
    (writes : List (Nat × Descriptor)) (t : Table) : Prop where
  len_eq : t.len = (writes.map (·.1 + 1)).foldl max len
  slot_eq : ∀ k, k < n.slots →
    t.slots[k]? = some ((lastWrite? writes k).getD (entries.getD k .null))

namespace Holds

variable {n : Capacity} {len : Nat} {entries : List Descriptor}
  {writes : List (Nat × Descriptor)} {t t' : Table}

theorem origin {base : Address} (h : Table.Origin n base entries t) :
    Holds n t.len entries [] t := by
  obtain ⟨rfl, -, -⟩ := h.eq_filled
  exact ⟨rfl, fun k hk => Table.getElem?_filled n base entries hk⟩

theorem write (h : Holds n len entries writes t) (size : t.slots.size = n.slots) (index : Nat)
    (d : Descriptor) : Holds n len entries (writes ++ [(index, d)]) (t.write index d) where
  len_eq := by
    rw [List.map_append, List.foldl_append, ← h.len_eq]
    rfl
  slot_eq k hk := by
    rw [lastWrite?_concat, Table.write, Array.getElem?_setIfInBounds, h.slot_eq k hk, size]
    by_cases heq : index = k
    · subst heq
      simp [hk]
    · simp [heq]

theorem leads {m : Moment} (h : Holds n len entries writes m.table) (wf : m.table.WellFormed n)
    (leads : m.Leads t') : Holds n len entries (writes ++ m.written?.toList) t' := by
  rcases leads.effect with ⟨rfl, hw, -⟩ | ⟨index, d, rfl, hw, -⟩ | ⟨rfl, hw, -, -⟩
  · rw [hw, Option.toList_none, List.append_nil]
    exact h
  · rw [hw]
    exact h.write wf.size_eq index d
  · rw [hw, Option.toList_none, List.append_nil]
    exact ⟨h.len_eq, h.slot_eq⟩

theorem run {base : Address} (h : Table.Origin n base entries t) (loaders : Nat → Loader σ) (w : σ)
    (as : List Action) :
    Holds n t.len entries (Action.writes loaders (t, w) as) (Action.run loaders (t, w) as).1 := by
  induction as using List.reverseRecOn with
  | nil => exact .origin h
  | append_singleton as a ih =>
    have wf := h.wellFormed.run loaders w as
    rw [Action.run_concat, Action.writes_concat]
    exact ih.leads wf (leads_perform wf loaders _ a)

theorem get?_eq (h : Holds n len entries writes t) (wf : t.WellFormed n) (k : Nat) :
    t.get? k =
      if k < t.len then some ((lastWrite? writes k).getD (entries.getD k .null)) else none := by
  rw [Table.get?]
  split
  · next hk => exact h.slot_eq k (Nat.lt_of_lt_of_le hk wf.len_le)
  · rfl

end Holds

namespace Table.WellFormed

variable {n : Capacity} {t : Table}

theorem set_done_iff (h : t.WellFormed n) (loaders : Nat → Loader σ) (w : σ) (index : Nat)
    (d : Descriptor) :
    ((Action.set index d).perform loaders (t, w)).1 = .done ↔ 1 ≤ index ∧ index < n.slots := by
  rw [Action.perform_set loaders t w h]
  split
  · next hzero => simp [hzero]
  · next hzero =>
    split
    · next hge => simp [Nat.not_lt.mpr hge]
    · next hlt => simp [Nat.lt_of_not_le hlt, Nat.one_le_iff_ne_zero, hzero]

theorem push_index_iff (h : t.WellFormed n) (loaders : Nat → Loader σ) (w : σ) (d : Descriptor) :
    (∃ index, ((Action.push d).perform loaders (t, w)).1 = .index index) ↔ t.len < n.slots := by
  rw [Action.perform_push loaders t w h]
  split
  · next hfull => simp [Nat.not_lt.mpr hfull]
  · next hroom => simp [Nat.lt_of_not_le hroom]

theorem push_at_len (h : t.WellFormed n) {loaders : Nat → Loader σ} {w : σ} {d : Descriptor}
    {index : UInt16} (hpush : ((Action.push d).perform loaders (t, w)).1 = .index index) :
    index.toNat = t.len ∧
      ((Action.push d).perform loaders (t, w)).2.1.get? t.len = some d := by
  rw [Action.perform_push loaders t w h] at hpush ⊢
  split at hpush
  · cases hpush
  · next hroom =>
    cases hpush
    rw [if_neg hroom]
    refine ⟨h.toNat_len, t.get?_write_self t.len d ?_⟩
    rw [h.capacity_eq]
    exact Nat.lt_of_not_le hroom

theorem perform_keeps (h : t.WellFormed n) (loaders : Nat → Loader σ) (w : σ) (a : Action) :
    t.len ≤ (a.perform loaders (t, w)).2.1.len ∧
      ∀ k, k < t.len → (∀ d, (a.moment loaders (t, w)).written? ≠ some (k, d)) →
        (a.perform loaders (t, w)).2.1.get? k = t.get? k := by
  have hmoment : (a.moment loaders (t, w)).table = t := rfl
  rcases (leads_perform h loaders w a).effect with
    ⟨heq, -, -⟩ | ⟨index, d, heq, hw, -⟩ | ⟨heq, -, -, -⟩
  · rw [heq]
    exact ⟨Nat.le_refl _, fun _ _ _ => rfl⟩
  · rw [heq, hw]
    refine ⟨Nat.le_max_left .., fun k hk hother => t.get?_write_of_ne index k d hk ?_⟩
    rintro rfl
    exact hother d rfl
  · rw [heq]
    exact ⟨Nat.le_refl _, fun _ _ _ => rfl⟩

end Table.WellFormed

/-- A table as a map of the writes made to it, over its first entries. What the next action does
to the map is part of it. -/
structure LastWriteWins (loaders : Nat → Loader σ) (n : Capacity) (len : Nat)
    (entries : List Descriptor) (writes : List (Nat × Descriptor)) (s : Table × σ) : Prop where
  set_done_iff : ∀ index d,
    ((Action.set index d).perform loaders s).1 = .done ↔ 1 ≤ index ∧ index < n.slots
  push_index_iff : ∀ d,
    (∃ index, ((Action.push d).perform loaders s).1 = .index index) ↔ s.1.len < n.slots
  push_at_len : ∀ d index, ((Action.push d).perform loaders s).1 = .index index →
    index.toNat = s.1.len ∧ ((Action.push d).perform loaders s).2.1.get? s.1.len = some d
  len_eq : s.1.len = (writes.map (·.1 + 1)).foldl max len
  get?_eq : ∀ k, s.1.get? k =
    if k < s.1.len then some ((lastWrite? writes k).getD (entries.getD k .null)) else none
  keeps : ∀ a : Action, s.1.len ≤ (a.perform loaders s).2.1.len ∧
    ∀ k, k < s.1.len → (∀ d, (a.moment loaders s).written? ≠ some (k, d)) →
      (a.perform loaders s).2.1.get? k = s.1.get? k

theorem run_lastWrite {n : Capacity} {base : Address} {entries : List Descriptor} {t : Table}
    (origin : Table.Origin n base entries t) (loaders : Nat → Loader σ) (w : σ)
    (as : List Action) :
    LastWriteWins loaders n t.len entries (Action.writes loaders (t, w) as)
      (Action.run loaders (t, w) as) := by
  have wf := origin.wellFormed.run loaders w as
  have holds := Holds.run origin loaders w as
  constructor
  · exact wf.set_done_iff loaders _
  · exact wf.push_index_iff loaders _
  · exact fun d index => wf.push_at_len
  · exact holds.len_eq
  · exact holds.get?_eq wf
  · exact wf.perform_keeps loaders _

theorem run_lastWrite_adopted :
    let n : Capacity := ⟨6, by decide, by decide⟩
    let entries : List Descriptor := [.null, .kernelCode .longMode, .userCode .longMode]
    let t := Table.filled n (.table 0) entries
    let as : List Action := [.set 2 (.kernelData .longMode), .push .null, .set 0 .null,
      .load 0 .kernelCode .kernelData, .set 5 (.userData .longMode), .push .null]
    Table.Origin n (.table 0) entries t ∧
      LastWriteWins Bench.loader n t.len entries (Action.writes Bench.loader (t, .empty 1) as)
        (Action.run Bench.loader (t, .empty 1) as) :=
  ⟨.adopted (Table.ofEntries_eq ..), run_lastWrite (.adopted (Table.ofEntries_eq ..)) ..⟩

end Segmentation
