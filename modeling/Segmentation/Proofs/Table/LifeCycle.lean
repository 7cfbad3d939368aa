import Mathlib.Data.List.Induction
import Segmentation.Bench
import Segmentation.Proofs.Table.Moment

namespace Segmentation

variable {σ : Type} [Journal σ]

/-- The last moment at which a loader was given the table, the pointer that it was given, and the
moments since. -/
structure LastLoad (history : List Moment) (m : Moment) (p : TablePointer)
    (since : List Moment) : Prop where
  split : ∃ before, history = before ++ m :: since
  handed : m.handed? = some p
  last : ∀ x ∈ since, x.handed? = none

namespace LastLoad

variable {history since : List Moment} {m x : Moment} {p : TablePointer}

theorem now (h : x.handed? = some p) : LastLoad (history ++ [x]) x p [] where
  split := ⟨history, rfl⟩
  handed := h
  last _ hy := absurd hy List.not_mem_nil

theorem concat (h : LastLoad history m p since) (hx : x.handed? = none) :
    LastLoad (history ++ [x]) m p (since ++ [x]) where
  split := by
    obtain ⟨before, rfl⟩ := h.split
    exact ⟨before, List.append_assoc ..⟩
  handed := h.handed
  last := List.forall_mem_append.mpr ⟨h.last, List.forall_mem_singleton.mpr hx⟩

theorem concat_cases (h : LastLoad (history ++ [x]) m p since) :
    (x = m ∧ since = []) ∨
      x.handed? = none ∧ ∃ earlier, since = earlier ++ [x] ∧ LastLoad history m p earlier := by
  obtain ⟨before, hsplit⟩ := h.split
  induction since using List.reverseRecOn with
  | nil =>
    have hx := List.append_inj_right' hsplit rfl
    exact .inl ⟨List.singleton_inj.mp hx, rfl⟩
  | append_singleton earlier y _ =>
    have hsplit : history ++ [x] = (before ++ m :: earlier) ++ [y] := by
      rw [hsplit, List.append_assoc]
      rfl
    obtain ⟨hhistory, hx⟩ := List.append_inj' hsplit rfl
    obtain ⟨hearlier, hy⟩ := List.forall_mem_append.mp h.last
    rw [List.singleton_inj.mp hx]
    exact .inr ⟨hy y List.mem_cons_self, earlier, rfl, ⟨before, hhistory⟩, h.handed, hearlier⟩

theorem eq_of_handed {q : TablePointer} (h : LastLoad (history ++ [x]) m p since)
    (hx : x.handed? = some q) : x = m ∧ p = q := by
  rcases h.concat_cases with ⟨rfl, -⟩ | ⟨hnone, -⟩
  · exact ⟨rfl, Option.some.inj (h.handed.symm.trans hx)⟩
  · rw [hx] at hnone
    cases hnone

theorem of_not_handed (h : LastLoad (history ++ [x]) m p since) (hx : x.handed? = none) :
    ∃ earlier, since = earlier ++ [x] ∧ LastLoad history m p earlier := by
  rcases h.concat_cases with ⟨rfl, -⟩ | ⟨-, prior⟩
  · rw [h.handed] at hx
    cases hx
  · exact prior

end LastLoad

structure Tracks (history : List Moment) (t : Table) : Prop where
  loaded_iff : t.loaded = true ↔
    ∃ m p since, LastLoad history m p since ∧ ∀ x ∈ since, x.written? = none
  current : t.loaded = true → ∀ m p since, LastLoad history m p since →
    p = t.pointer ∧ m.table.entries = t.entries

namespace Tracks

variable {history : List Moment} {x : Moment} {t : Table} {n : Capacity}

theorem origin {base : Address} {entries : List Descriptor}
    (h : Table.Origin n base entries t) : Tracks [] t := by
  obtain ⟨rfl, -, -⟩ := h.eq_filled
  constructor
  · refine ⟨nofun, ?_⟩
    rintro ⟨m, p, since, ⟨⟨before, hsplit⟩, -, -⟩, -⟩
    cases List.append_eq_nil_iff.mp hsplit.symm |>.2
  · exact nofun

theorem idle (h : Tracks history x.table) (hw : x.written? = none) (hh : x.handed? = none) :
    Tracks (history ++ [x]) x.table where
  loaded_iff := by
    rw [h.loaded_iff]
    constructor
    · rintro ⟨m, p, since, last, quiet⟩
      refine ⟨m, p, since ++ [x], last.concat hh, ?_⟩
      exact List.forall_mem_append.mpr ⟨quiet, List.forall_mem_singleton.mpr hw⟩
    · rintro ⟨m, p, since, last, quiet⟩
      obtain ⟨earlier, rfl, prior⟩ := last.of_not_handed hh
      exact ⟨m, p, earlier, prior, (List.forall_mem_append.mp quiet).1⟩
  current loaded m p since last := by
    obtain ⟨earlier, -, prior⟩ := last.of_not_handed hh
    exact h.current loaded m p earlier prior

theorem write {index : Nat} {d : Descriptor} (hw : x.written? = some (index, d))
    (hh : x.handed? = none) : Tracks (history ++ [x]) (x.table.write index d) where
  loaded_iff := by
    refine ⟨nofun, ?_⟩
    rintro ⟨m, p, since, last, quiet⟩
    obtain ⟨earlier, rfl, -⟩ := last.of_not_handed hh
    rw [quiet x (List.mem_append_right _ List.mem_cons_self)] at hw
    cases hw
  current := nofun

theorem load (hh : x.handed? = some x.table.pointer) :
    Tracks (history ++ [x]) x.table.markLoaded where
  loaded_iff := by
    constructor
    · intro _
      exact ⟨x, _, [], .now hh, fun _ hy => absurd hy List.not_mem_nil⟩
    · intro _
      rfl
  current _ m p since last := by
    obtain ⟨rfl, hp⟩ := last.eq_of_handed hh
    exact ⟨hp, rfl⟩

theorem leads (h : Tracks history x.table) (leads : x.Leads t) : Tracks (history ++ [x]) t := by
  rcases leads.effect with ⟨rfl, hw, hh⟩ | ⟨index, d, rfl, hw, hh, -⟩ | ⟨rfl, -, hh, -⟩
  · exact h.idle hw hh
  · exact .write hw hh
  · exact .load hh

theorem run {base : Address} {entries : List Descriptor} (h : Table.Origin n base entries t)
    (loaders : Nat → Loader σ) (w : σ) (as : List Action) :
    Tracks (Action.history loaders (t, w) as) (Action.run loaders (t, w) as).1 := by
  induction as using List.reverseRecOn with
  | nil => exact .origin h
  | append_singleton as a ih =>
    have wf := h.wellFormed.run loaders w as
    rw [Action.run_concat, Action.history_concat]
    exact ih.leads (leads_perform wf loaders _ a)

end Tracks

namespace Table

variable {n : Capacity} {t : Table}

theorem stage_eq_loaded_iff : t.stage = .loaded ↔ t.loaded = true := by
  rw [stage]
  split
  · next h => exact ⟨fun _ => h, fun _ => rfl⟩
  · next h =>
    refine ⟨fun hstage => ?_, fun hloaded => absurd hloaded h⟩
    split at hstage <;> cases hstage

theorem stage_of_not_loaded (h : t.stage ≠ .loaded) :
    t.stage = if 1 < t.len then .populated else .uninitialized := by
  rw [ne_eq, stage_eq_loaded_iff] at h
  rw [stage, if_neg h]

theorem WellFormed.stage_ne_uninitialized_iff (h : t.WellFormed n) :
    t.stage ≠ .uninitialized ↔ 1 < t.len := by
  by_cases hloaded : t.stage = .loaded
  · rw [hloaded]
    exact ⟨fun _ => h.loaded_populated (stage_eq_loaded_iff.mp hloaded), fun _ => nofun⟩
  · rw [stage_of_not_loaded hloaded]
    split
    · next hlen => exact ⟨fun _ => hlen, fun _ => nofun⟩
    · next hlen => exact ⟨fun h => absurd rfl h, fun h => absurd h hlen⟩

end Table

theorem Moment.Leads.of_refused {m : Moment} {t : Table} {e : SegmentError} (h : m.Leads t)
    (refused : m.answer = .refused e) (unseen : m.handed? = none ∨ ∀ k, m.action ≠ .install k) :
    t = m.table := by
  rcases h with ⟨-, -⟩ | ⟨written, -, -, -⟩ | ⟨asks, accepted, calls, quiet, answer⟩
  · rfl
  · rw [written?_of_refused refused] at written
    cases written
  · rcases unseen with hnone | hinstall
    · rw [handed?_of_calls calls (List.forall_mem_append.mp quiet).1] at hnone
      cases hnone
    · rcases answer with answer | action
      · rw [refused] at answer
        cases answer
      · exact absurd action (hinstall _)

structure LifeCycle (loaders : Nat → Loader σ) (history : List Moment) (s : Table × σ) :
    Prop where
  loaded_iff : s.1.stage = .loaded ↔
    ∃ m p since, LastLoad history m p since ∧ ∀ x ∈ since, x.written? = none
  otherwise : s.1.stage ≠ .loaded →
    1 < s.1.len ∧ s.1.stage = .populated ∨ s.1.len = 1 ∧ s.1.stage = .uninitialized
  current : s.1.stage = .loaded → ∀ m p since, LastLoad history m p since →
    p = s.1.pointer ∧ m.table.entries = s.1.entries
  refused : ∀ (a : Action) e, (a.perform loaders s).1 = .refused e →
    ((a.moment loaders s).handed? = none ∨ ∀ k, a ≠ .install k) →
      (a.perform loaders s).2.1.stage = s.1.stage
  populated : s.1.stage ≠ .uninitialized → ∀ later,
    (Action.run loaders s later).1.stage ≠ .uninitialized

theorem run_lifeCycle {n : Capacity} {base : Address} {entries : List Descriptor} {t : Table}
    (origin : Table.Origin n base entries t) (loaders : Nat → Loader σ) (w : σ)
    (as : List Action) :
    LifeCycle loaders (Action.history loaders (t, w) as) (Action.run loaders (t, w) as) := by
  have wf := origin.wellFormed.run loaders w as
  have tracks := Tracks.run origin loaders w as
  constructor
  · rw [Table.stage_eq_loaded_iff]
    exact tracks.loaded_iff
  · intro h
    rw [Table.stage_of_not_loaded h]
    split
    · next hlen => exact .inl ⟨hlen, rfl⟩
    · next hlen =>
      have hpos := wf.len_pos
      exact .inr ⟨by omega, rfl⟩
  · rw [Table.stage_eq_loaded_iff]
    exact tracks.current
  · intro a e he unseen
    rw [← Action.answer_moment] at he
    exact congrArg Table.stage ((leads_perform wf loaders _ a).of_refused he unseen)
  · intro h later
    rw [wf.stage_ne_uninitialized_iff] at h
    rw [(wf.run loaders _ later).stage_ne_uninitialized_iff]
    exact Nat.lt_of_lt_of_le h (wf.len_le_run loaders _ later)

theorem run_lifeCycle_adopted :
    let n : Capacity := ⟨8, by decide, by decide⟩
    let entries : List Descriptor := [.null, .kernelCode .longMode, .kernelData .longMode]
    let t := Table.filled n (.table 0) entries
    let as : List Action := [.install 0, .push .null, .set 0 .null, .load 1 .kernelCode .userData,
      .install 1]
    Table.Origin n (.table 0) entries t ∧
      LifeCycle Bench.loader (Action.history Bench.loader (t, .empty 2) as)
        (Action.run Bench.loader (t, .empty 2) as) := by
  intro n entries t as
  have origin : Table.Origin n (.table 0) entries t :=
    .adopted (Table.ofEntries_eq n (.table 0) entries)
  exact ⟨origin, run_lifeCycle origin Bench.loader (.empty 2) as⟩

end Segmentation
