import Mathlib.Data.List.Forall2
import Segmentation.Loader.Recorder
import Segmentation.Proofs.Record
import Segmentation.Proofs.Table.LastWrite

namespace Segmentation

variable {σ : Type} [Journal σ]

def Action.isEdit : Action → Bool
  | .push _ | .set .. => true
  | .load .. | .install _ => false

theorem Journal.toList_logAll (rs : List Record) (log : Array Record) :
    (Journal.logAll rs log).toList = log.toList ++ rs := by
  induction rs generalizing log with
  | nil => exact (List.append_nil _).symm
  | cons r rs ih =>
    change (Journal.logAll rs (log.push r)).toList = _
    rw [ih, Array.toList_push, List.append_assoc]
    rfl

namespace Table

theorem mapM_readWritten? (writes : List (Nat × Descriptor)) :
    (records writes).mapM (fun r => Record.readWritten? r.message) = some writes := by
  induction writes with
  | nil => rfl
  | cons x writes ih =>
    change (Record.written x.1 x.2 :: records writes).mapM _ = _
    rw [List.mapM_cons, Record.readWritten?_written, ih]
    rfl

def Takes (n : Capacity) (writes : List (Nat × Descriptor)) : Prop :=
  ∀ x ∈ writes, x.1 ≠ 0 ∧ x.1 < n.slots

structure Edited (n : Capacity) (writes : List (Nat × Descriptor)) (s s' : Table × σ) : Prop where
  takes : Takes n writes
  result : s' = (writeAll writes s.1, Journal.logAll (records writes) s.2)

theorem Edited.append {n : Capacity} {xs ys : List (Nat × Descriptor)} {s s' s'' : Table × σ}
    (first : Edited n xs s s') (rest : Edited n ys s' s'') : Edited n (xs ++ ys) s s'' where
  takes := List.forall_mem_append.mpr ⟨first.takes, rest.takes⟩
  result := by
    rw [rest.result, first.result]
    simp only [writeAll, records, Journal.logAll, List.map_append, List.foldl_append]

section Edits

variable {n : Capacity} {t : Table} {as : List Action} (loaders : Nat → Loader σ)

theorem WellFormed.perform_edit (wf : t.WellFormed n) {a : Action} (edit : a.isEdit = true)
    (w : σ) :
    (∃ e, a.perform loaders (t, w) = (.refused e, t, w)) ∨
      ∃ answer index d, a.written? answer = some (index, d) ∧ index ≠ 0 ∧ index < n.slots ∧
        a.perform loaders (t, w) =
          (answer, t.write index d, Journal.log (.written index d) w) := by
  cases a with
  | push d =>
    rw [Action.perform_push loaders t w wf]
    split
    · exact .inl ⟨_, rfl⟩
    · next room =>
      have lt := Nat.lt_of_not_le room
      refine .inr ⟨.index t.len.toUInt16, t.len, d, ?_, Nat.ne_of_gt wf.len_pos, lt, rfl⟩
      rw [Action.written?, wf.toNat_len]
  | set index d =>
    by_cases zero : index = 0
    · rw [Action.perform_set loaders t w wf, if_pos zero]
      exact .inl ⟨_, rfl⟩
    · by_cases past : n.slots ≤ index
      · rw [Action.perform_set loaders t w wf, if_neg zero, if_pos past]
        exact .inl ⟨_, rfl⟩
      · have lt := Nat.lt_of_not_le past
        exact .inr ⟨.done, index, d, rfl, zero, lt,
          Action.perform_set_of_lt loaders t w wf zero lt d⟩
  | load k code data => cases edit
  | install k => cases edit

theorem WellFormed.edited_perform (wf : t.WellFormed n) {a : Action} (edit : a.isEdit = true)
    (w : σ) :
    let m := a.moment loaders (t, w)
    Edited n m.written?.toList (t, w) (a.perform loaders (t, w)).2 ∧
      (m.written? = none ↔ ∃ e, m.answer = .refused e) := by
  have answer := a.answer_moment loaders (t, w)
  rcases wf.perform_edit loaders edit w with ⟨e, refused⟩ | ⟨ok, index, d, written, pos, lt, wrote⟩
  · rw [refused] at answer
    have none := Moment.written?_of_refused answer
    dsimp only
    rw [refused, none]
    exact ⟨⟨List.forall_mem_nil _, rfl⟩, fun _ => ⟨e, answer⟩, fun _ => rfl⟩
  · rw [wrote] at answer
    have some : (a.moment loaders (t, w)).written? = some (index, d) := by
      rw [Moment.written?, answer]
      exact written
    dsimp only
    rw [wrote, some]
    refine ⟨⟨List.forall_mem_singleton.mpr ⟨pos, lt⟩, rfl⟩, ?_⟩
    constructor
    · intro none
      cases none
    · rintro ⟨e, refused⟩
      rw [Moment.written?_of_refused refused] at some
      cases some

theorem WellFormed.edited_run (wf : t.WellFormed n) (edits : ∀ a ∈ as, a.isEdit = true) (w : σ) :
    Edited n (Action.writes loaders (t, w) as) (t, w) (Action.run loaders (t, w) as) ∧
      ∀ m ∈ Action.history loaders (t, w) as,
        m.written? = none ↔ ∃ e, m.answer = .refused e := by
  induction as using List.reverseRecOn with
  | nil => exact ⟨⟨List.forall_mem_nil _, rfl⟩, List.forall_mem_nil _⟩
  | append_singleton as a ih =>
    obtain ⟨edits, edit⟩ := List.forall_mem_append.mp edits
    obtain ⟨earlier, told⟩ := ih edits
    obtain ⟨last, tells⟩ :=
      (wf.run loaders w as).edited_perform loaders (edit a List.mem_cons_self) _
    rw [Action.run_concat, Action.writes_concat, Action.history_concat]
    exact ⟨earlier.append last,
      List.forall_mem_append.mpr ⟨told, List.forall_mem_singleton.mpr tells⟩⟩

end Edits

section Sets

variable {n : Capacity} {t : Table}

def sets (writes : List (Nat × Descriptor)) : List Action := writes.map fun x => .set x.1 x.2

theorem run_sets (wf : t.WellFormed n) {writes : List (Nat × Descriptor)} (takes : Takes n writes)
    (loaders : Nat → Loader σ) (w : σ) :
    (Action.run loaders (t, w) (sets writes)).1 = writeAll writes t ∧
      ∀ m ∈ Action.history loaders (t, w) (sets writes), m.answer = .done := by
  induction writes generalizing t w with
  | nil => exact ⟨rfl, List.forall_mem_nil _⟩
  | cons x writes ih =>
    obtain ⟨⟨pos, lt⟩, takes⟩ := List.forall_mem_cons.mp takes
    have first := Action.perform_set_of_lt loaders t w wf pos lt x.2
    have answer := (Action.set x.1 x.2).answer_moment loaders (t, w)
    rw [first] at answer
    obtain ⟨run, done⟩ := ih (wf.write x.2 (Nat.pos_of_ne_zero pos) lt) takes
      (Journal.log (.written x.1 x.2) w)
    change
      (Action.run loaders ((Action.set x.1 x.2).perform loaders (t, w)).2 (sets writes)).1 = _ ∧
      ∀ m ∈ (Action.set x.1 x.2).moment loaders (t, w) ::
        Action.history loaders ((Action.set x.1 x.2).perform loaders (t, w)).2 (sets writes), _
    rw [first]
    exact ⟨run, List.forall_mem_cons.mpr ⟨answer, done⟩⟩

theorem writeAll_based (writes : List (Nat × Descriptor)) (t : Table) (base : Address) :
    writeAll writes { t with base := base } = { writeAll writes t with base := base } := by
  induction writes generalizing t with
  | nil => rfl
  | cons x writes ih => exact ih (t.write x.1 x.2)

end Sets

def Replays (n : Capacity) (writes : List (Nat × Descriptor)) (t : Table) : Prop :=
  ∀ (base : Address) {σ : Type} [Journal σ] (loaders : Nat → Loader σ) (w : σ),
    (∀ m ∈ Action.history loaders (new n base, w) (sets writes), m.answer = .done) ∧
      let t' := (Action.run loaders (new n base, w) (sets writes)).1
      t'.slots = t.slots ∧ t'.len = t.len ∧ t'.stage = t.stage

theorem Takes.replays {n : Capacity} {writes : List (Nat × Descriptor)} (takes : Takes n writes)
    (base : Address) : Replays n writes (writeAll writes (new n base)) := by
  intro base' σ _ loaders w
  have wf : (new n base').WellFormed n := Origin.fresh.wellFormed
  obtain ⟨run, done⟩ := run_sets wf takes loaders w
  have moved :
      writeAll writes (new n base') = { writeAll writes (new n base) with base := base' } :=
    writeAll_based writes (new n base) base'
  rw [run, moved]
  exact ⟨done, rfl, rfl, rfl⟩

structure Journalled (n : Capacity) (history : List Moment) (t : Table) (log : List Record) :
    Prop where
  written?_none_iff : ∀ m ∈ history, m.written? = none ↔ ∃ e, m.answer = .refused e
  shows : List.Forall₂ (fun r x => r.level = .debug ∧ Record.Shows r.message x.1 x.2) log
    (history.filterMap Moment.written?)
  read_back : log.mapM (fun r => Record.readWritten? r.message) =
    some (history.filterMap Moment.written?)
  replays : Replays n (history.filterMap Moment.written?) t

end Table

theorem run_journalled (n : Capacity) (base : Address) (loaders : Nat → Loader (Array Record))
    {as : List Action} (edits : ∀ a ∈ as, a.isEdit = true) :
    let s : Table × Array Record := (.new n base, #[])
    Table.Journalled n (Action.history loaders s as) (Action.run loaders s as).1
      (Action.run loaders s as).2.toList := by
  intro s
  have wf : (Table.new n base).WellFormed n := Table.Origin.fresh.wellFormed
  obtain ⟨⟨takes, result⟩, told⟩ := wf.edited_run loaders edits (#[] : Array Record)
  rw [result, Journal.toList_logAll, Array.toList_empty, List.nil_append]
  constructor
  · exact told
  · rw [Table.records, List.forall₂_map_left_iff]
    exact List.forall₂_same.mpr fun x _ => ⟨rfl, Record.shows_written x.1 x.2⟩
  · exact Table.mapM_readWritten? _
  · exact takes.replays base

theorem run_journalled_gap :
    let n : Capacity := ⟨4, by decide, by decide⟩
    let loaders : Nat → Loader (Array Record) := fun _ =>
      Recorder.loader.within (fun _ => .blank) fun _ log => log
    let as : List Action := [.push (.kernelCode .longMode), .set 0 .null,
      .set 3 (.kernelData .longMode), .push .null, .set 1 (.userCode .longMode), .set 4 .null]
    let s : Table × Array Record := (.new n (.table 0), #[])
    (∀ a ∈ as, a.isEdit = true) ∧ (Action.run loaders s as).2.size = 3 ∧
      Table.Journalled n (Action.history loaders s as) (Action.run loaders s as).1
        (Action.run loaders s as).2.toList :=
  ⟨by decide, by decide, run_journalled _ _ _ (by decide)⟩

end Segmentation
