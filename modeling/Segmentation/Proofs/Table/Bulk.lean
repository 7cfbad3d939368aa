import Segmentation.Bench
import Segmentation.Proofs.Table.Invariant
import Segmentation.Proofs.Table.Reachable

namespace Segmentation

namespace Table

def appended (len : Nat) (ds : List Descriptor) : List (Nat × Descriptor) :=
  (ds.zipIdx len).map Prod.swap

section Pushes

variable {σ : Type} [Journal σ] {n : Capacity} {t : Table}

theorem perform_push_of_lt (wf : t.WellFormed n) (room : t.len < n.slots)
    (loaders : Nat → Loader σ) (w : σ) (d : Descriptor) :
    (Action.push d).perform loaders (t, w) =
      (.index t.len.toUInt16, t.write t.len d, Journal.log (.written t.len d) w) := by
  rw [Action.perform_push loaders t w wf, if_neg (Nat.not_le_of_lt room)]

theorem len_write_len (t : Table) (d : Descriptor) : (t.write t.len d).len = t.len + 1 :=
  Nat.max_eq_right (Nat.le_succ _)

theorem run_pushes (wf : t.WellFormed n) {ds : List Descriptor}
    (room : t.len + ds.length ≤ n.slots) (loaders : Nat → Loader σ) (w : σ) :
    Action.run loaders (t, w) (ds.map .push) =
        (writeAll (appended t.len ds) t, Journal.logAll (records (appended t.len ds)) w) ∧
      (Action.history loaders (t, w) (ds.map .push)).map (·.answer) =
        (List.range' t.len ds.length).map fun k => .index k.toUInt16 := by
  induction ds generalizing t w with
  | nil => exact ⟨rfl, rfl⟩
  | cons d ds ih =>
    rw [List.length_cons] at room
    have first := perform_push_of_lt wf (by omega) loaders w d
    have next := wf.write d wf.len_pos (by omega)
    have rest := ih next (by rw [len_write_len]; omega) (Journal.log (.written t.len d) w)
    rw [len_write_len] at rest
    rw [List.map_cons, Action.history, List.map_cons, Action.answer_moment, first, rest.2]
    refine ⟨?_, rfl⟩
    change Action.run loaders ((Action.push d).perform loaders (t, w)).2 (ds.map .push) = _
    rw [first]
    exact rest.1

end Pushes

section Entries

variable {n : Capacity} {t : Table}

theorem WellFormed.first_entry (wf : t.WellFormed n) : t.entries[0]? = some .null := by
  rw [getElem?_entries, get?, if_pos wf.len_pos, wf.first_null]

theorem WellFormed.length_entries_le (wf : t.WellFormed n) : t.entries.length ≤ n.slots := by
  rw [wf.length_entries]
  exact wf.len_le

theorem WellFormed.slots_filled (wf : t.WellFormed n) (base : Address) :
    (Table.filled n base t.entries).slots = t.slots := by
  apply slots_ext (size_filled n base t.entries wf.length_entries_le) wf.size_eq
  intro k hk
  rw [getElem?_filled n base t.entries hk, List.getD_eq_getElem?_getD, getElem?_entries, get?]
  split
  · have hsize : k < t.slots.size := wf.size_eq ▸ hk
    rw [Array.getElem?_eq_getElem hsize]
    rfl
  · next past => exact (wf.rest_null k (Nat.le_of_not_lt past) hk).symm

end Entries

structure MadeLikePushed (n : Capacity) (base : Address) (es : List Descriptor) : Prop where
  missing : es[0]? ≠ some .null → ofEntries n base es = .error .missingNullDescriptor
  full : es[0]? = some .null → n.slots < es.length →
    ofEntries n base es = .error (.tableFull n.slots)
  made : es[0]? = some .null → es.length ≤ n.slots →
    ∃ t, ofEntries n base es = .ok t ∧ t.entries = es ∧
      ∀ {σ : Type} [Journal σ] (loaders : Nat → Loader σ) (w : σ),
        (Action.run loaders (new n base, w) (es.tail.map .push)).1 = t ∧
          (Action.history loaders (new n base, w) (es.tail.map .push)).map (·.answer) =
            (List.range' 1 (es.length - 1)).map fun k => .index k.toUInt16

structure MadeAgain (n : Capacity) (base : Address) (t t' : Table) : Prop where
  made : ofEntries n base t.entries = .ok t'
  slots : t'.slots = t.slots
  len : t'.len = t.len
  limit : t'.pointer.limit = t.pointer.limit
  stage : t'.stage = if t.len = 1 then .uninitialized else .populated

theorem madeLikePushed (n : Capacity) (base : Address) (es : List Descriptor) :
    MadeLikePushed n base es := by
  constructor
  · intro missing
    rw [ofEntries_eq, if_pos missing]
  · intro first full
    rw [ofEntries_eq, if_neg (not_not_intro first), if_pos full]
  · intro first fits
    refine ⟨filled n base es, ?_, entries_filled n base es, ?_⟩
    · rw [ofEntries_eq, if_neg (not_not_intro first), if_neg (Nat.not_lt_of_le fits)]
    · intro σ _ loaders w
      cases es with
      | nil => cases first
      | cons e ds =>
        cases first
        have wf : (new n base).WellFormed n := Origin.fresh.wellFormed
        have room : (new n base).len + ds.length ≤ n.slots := by
          rw [List.length_cons, Nat.add_comm] at fits
          exact fits
        obtain ⟨hrun, answers⟩ := run_pushes wf room loaders w
        refine ⟨?_, answers⟩
        rw [List.tail_cons, hrun, new_eq_filled]
        exact writeAll_filled n base [.null] ds room

theorem WellFormed.madeAgain {n : Capacity} {t : Table} (wf : t.WellFormed n) (base : Address) :
    MadeAgain n base t (Table.filled n base t.entries) := by
  have len : (Table.filled n base t.entries).len = t.len := wf.length_entries
  constructor
  · rw [ofEntries_eq, if_neg (not_not_intro wf.first_entry),
      if_neg (Nat.not_lt_of_le wf.length_entries_le)]
  · exact wf.slots_filled base
  · exact len
  · rw [pointer, len]
    rfl
  · have pos := wf.len_pos
    rw [stage_filled, wf.length_entries]
    by_cases alone : t.len = 1
    · rw [if_pos alone, if_neg (by omega)]
    · rw [if_neg alone, if_pos (by omega)]

end Table

theorem ofEntries_like_pushes (n : Capacity) :
    (∀ base es, Table.MadeLikePushed n base es) ∧
      ∀ t, Table.Reachable n t → ∀ base, ∃ t', Table.MadeAgain n base t t' :=
  ⟨Table.madeLikePushed n, fun _ reachable base => ⟨_, reachable.wellFormed.madeAgain base⟩⟩

theorem ofEntries_like_pushes_loaded :
    let n : Capacity := ⟨6, by decide, by decide⟩
    let t := (Action.run Bench.loader (.new n (.table 0), .empty 1)
      [.push (.kernelCode .longMode), .push (.kernelData .longMode), .set 4 .null,
        .load 0 .kernelCode .kernelData]).1
    t.Reachable n ∧ t.stage = .loaded ∧ Table.MadeLikePushed n (.table 1) t.entries ∧
      ∃ t', Table.MadeAgain n (.table 1) t t' := by
  intro n t
  have made : (Table.new n (.table 0)).Reachable n := .made .fresh
  have reachable : t.Reachable n := made.run Bench.loader _ _
  obtain ⟨pushed, again⟩ := ofEntries_like_pushes n
  exact ⟨reachable, by decide, pushed (.table 1) t.entries, again t reachable (.table 1)⟩

end Segmentation
