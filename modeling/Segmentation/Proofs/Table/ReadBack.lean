import Segmentation.Proofs.ActiveSegments
import Segmentation.Proofs.Loader.Remembers
import Segmentation.Proofs.Table.Reachable

namespace Segmentation

variable {σ : Type} [Journal σ]

namespace Table

def kernelSegments (t : Table) : ActiveSegments := ⟨.kernelCode, .kernelData, t.pointer⟩

def handed (t : Table) (loader : Loader σ) (w : σ) : σ :=
  t.kernelSegments.handTo loader (t.announced w)

def reported (t : Table) (loader : Loader σ) (w : σ) : ActiveSegments :=
  (loader.active (t.handed loader w)).1

theorem accept_kernel_cases (t : Table) :
    (∃ e, t.accept .kernelCode .kernelData = .error e) ∨
      t.accept .kernelCode .kernelData = .ok t.kernelSegments := by
  cases h : t.accept .kernelCode .kernelData with
  | error e => exact .inl ⟨e, rfl⟩
  | ok a =>
    obtain ⟨-, -, -, -, -, -, rfl⟩ := accept_eq_ok_iff.mp h
    exact .inr rfl

end Table

namespace Action

variable {loaders : Nat → Loader σ} {t : Table} {w : σ} {k : Nat}

theorem perform_install_taken (h : t.accept .kernelCode .kernelData = .ok t.kernelSegments)
    (taken : t.reported (loaders k) w = t.kernelSegments) :
    (install k).perform loaders (t, w) = (.segments t.kernelSegments, t.markLoaded,
      Journal.log .verified (ActiveSegments.readBack (loaders k) (t.handed (loaders k) w))) := by
  have passed : t.kernelSegments.check (t.reported (loaders k) w) = .ok () :=
    ActiveSegments.check_eq_ok_iff.mpr taken
  unfold Table.reported Table.handed at passed
  rw [perform_install_accepted loaders w k h]
  dsimp only
  rw [passed]
  rfl

theorem perform_install_mismatched {e : SegmentError}
    (h : t.accept .kernelCode .kernelData = .ok t.kernelSegments)
    (mismatch : t.kernelSegments.check (t.reported (loaders k) w) = .error e) :
    (install k).perform loaders (t, w) = (.refused e, t.markLoaded,
      ActiveSegments.readBack (loaders k) (t.handed (loaders k) w)) := by
  unfold Table.reported Table.handed at mismatch
  rw [perform_install_accepted loaders w k h]
  dsimp only
  rw [mismatch]
  rfl

end Action

def Table.installCalls (t : Table) (k : Nat) (o : ActiveSegments) : List Call :=
  [.log (.loading t), .log (.drawn t), .loadTable k t.pointer,
    .reloadSegments k .kernelCode .kernelData, .log (.loaded t.kernelSegments), .active k,
    .log (.observed o)]

/-- An installation that got to the loader, which reports `o`. -/
structure Installed (loaders : Nat → Loader σ) (s : Table × σ) (k : Nat) (o : ActiveSegments) :
    Prop where
  segments_iff : ((Action.install k).perform loaders s).1 = .segments s.1.kernelSegments ↔
    o = s.1.kernelSegments
  code_differs : o.code ≠ .kernelCode →
    ((Action.install k).perform loaders s).1 =
      .refused (.selectorMismatch "CS" .kernelCode o.code)
  data_differs : o.code = .kernelCode → o.data ≠ .kernelData →
    ((Action.install k).perform loaders s).1 =
      .refused (.selectorMismatch "DS" .kernelData o.data)
  table_differs : o.code = .kernelCode → o.data = .kernelData → o.table ≠ s.1.pointer →
    ((Action.install k).perform loaders s).1 =
      .refused (.tablePointerMismatch s.1.pointer o.table)
  calls : ((Action.install k).moment loaders s).calls =
    s.1.installCalls k o ++ if o = s.1.kernelSegments then [.log .verified] else []
  stage : ((Action.install k).perform loaders s).2.1.stage = .loaded
  entries : ((Action.install k).perform loaders s).2.1.entries = s.1.entries

structure ReadsBack (loaders : Nat → Loader σ) (s : Table × σ) (k : Nat) : Prop where
  refused : ∀ e, ((Action.load k .kernelCode .kernelData).perform loaders s).1 = .refused e →
    ((Action.install k).perform loaders s).1 = .refused e
  installed : (∀ e, ((Action.load k .kernelCode .kernelData).perform loaders s).1 ≠ .refused e) →
    Installed loaders s k (s.1.reported (loaders k) s.2)
  code_eq : s.1.kernelSegments.code = ⟨0x08⟩
  data_eq : s.1.kernelSegments.data = ⟨0x10⟩
  base_eq : s.1.kernelSegments.table.base = s.1.base
  limit_eq : s.1.kernelSegments.table.limit.toNat = 8 * s.1.len - 1
  remembered : ∀ keeps, (loaders k).Remembers keeps → (∃ before, keeps s.2 before) →
    ((∃ a, ((Action.install k).perform loaders s).1 = .segments a) ↔
      ∃ a, ((Action.load k .kernelCode .kernelData).perform loaders s).1 = .segments a)

section Install

variable {loaders : Nat → Loader σ} {t : Table} {w : σ} {k : Nat}

theorem calls_handed :
    (ActiveSegments.readBack (Loader.tapAll loaders k)
        (t.handed (Loader.tapAll loaders k) (.start w))).calls =
      t.installCalls k (t.reported (loaders k) w) :=
  calls_install t.kernelSegments k

theorem table_install (h : t.accept .kernelCode .kernelData = .ok t.kernelSegments) :
    ((Action.install k).perform loaders (t, w)).2.1 = t.markLoaded := by
  by_cases taken : t.reported (loaders k) w = t.kernelSegments
  · rw [Action.perform_install_taken h taken]
  · obtain ⟨e, mismatch⟩ := ActiveSegments.exists_error_of_ne taken
    rw [Action.perform_install_mismatched h mismatch]

theorem calls_moment_install (h : t.accept .kernelCode .kernelData = .ok t.kernelSegments) :
    ((Action.install k).moment loaders (t, w)).calls =
      t.installCalls k (t.reported (loaders k) w) ++
        if t.reported (loaders k) w = t.kernelSegments then [.log .verified] else [] := by
  rw [← calls_handed]
  by_cases taken : t.reported (loaders k) w = t.kernelSegments
  · have tapped : (Action.install k).perform (Loader.tapAll loaders) (t, .start w) = _ :=
      Action.perform_install_taken h taken
    rw [if_pos taken]
    exact congrArg Moment.calls (perform_tapped loaders tapped).2
  · obtain ⟨e, mismatch⟩ := ActiveSegments.exists_error_of_ne taken
    have tapped : (Action.install k).perform (Loader.tapAll loaders) (t, .start w) = _ :=
      Action.perform_install_mismatched h mismatch
    rw [if_neg taken, List.append_nil]
    exact congrArg Moment.calls (perform_tapped loaders tapped).2

theorem installed_of_accept (h : t.accept .kernelCode .kernelData = .ok t.kernelSegments) :
    Installed loaders (t, w) k (t.reported (loaders k) w) := by
  constructor
  · constructor
    · intro answer
      by_contra differs
      obtain ⟨e, mismatch⟩ := ActiveSegments.exists_error_of_ne differs
      rw [Action.perform_install_mismatched h mismatch] at answer
      cases answer
    · intro taken
      rw [Action.perform_install_taken h taken]
  · intro code
    rw [Action.perform_install_mismatched h (ActiveSegments.check_of_code_ne code)]
    rfl
  · intro code data
    rw [Action.perform_install_mismatched h (ActiveSegments.check_of_data_ne code data)]
    rfl
  · intro code data table
    rw [Action.perform_install_mismatched h (ActiveSegments.check_of_table_ne code data table)]
    rfl
  · exact calls_moment_install h
  · rw [table_install h]
    rfl
  · rw [table_install h]
    rfl

theorem reported_of_remembers {keeps : σ → ActiveSegments → Prop}
    (remembers : (loaders k).Remembers keeps) {before : ActiveSegments} (hw : keeps w before) :
    t.reported (loaders k) w = t.kernelSegments :=
  remembers.active (remembers.handTo t.kernelSegments (remembers.announced t hw))

theorem install_segments_iff_of_remembers {keeps : σ → ActiveSegments → Prop}
    (remembers : (loaders k).Remembers keeps) {before : ActiveSegments} (hw : keeps w before) :
    (∃ a, ((Action.install k).perform loaders (t, w)).1 = .segments a) ↔
      ∃ a, ((Action.load k .kernelCode .kernelData).perform loaders (t, w)).1 = .segments a := by
  simp only [Action.load_segments_iff]
  rcases t.accept_kernel_cases with ⟨e, refused⟩ | accepted
  · rw [Action.perform_install_refused loaders w k refused, refused]
    simp
  · rw [Action.perform_install_taken accepted (reported_of_remembers remembers hw), accepted]
    simp

end Install

theorem install_readsBack {n : Capacity} {s : Table × σ} (h : s.1.Reachable n)
    (loaders : Nat → Loader σ) (k : Nat) : ReadsBack loaders s k := by
  obtain ⟨t, w⟩ := s
  have wf : t.WellFormed n := h.wellFormed
  constructor
  · intro e refused
    have haccept := (Action.load_refused_iff loaders t w).mp refused
    rw [Action.perform_install_refused loaders w k haccept]
  · intro passes
    rcases t.accept_kernel_cases with ⟨e, refused⟩ | accepted
    · exact absurd ((Action.load_refused_iff loaders t w).mpr refused) (passes e)
    · exact installed_of_accept accepted
  · rfl
  · rfl
  · rfl
  · exact Table.limit_pointer wf.len_pos wf.len_le_max
  · rintro keeps remembers ⟨before, hw⟩
    exact install_segments_iff_of_remembers remembers hw

theorem install_readsBack_stuck :
    let n : Capacity := ⟨8, by decide, by decide⟩
    let t := Table.writeAll (Table.flatWrites .longMode) (.new n (.table 0))
    let m := { Machine.idle with stuck := fun p => p = .register .ds }
    let b := Bench.setProcessor 1 m (.empty 2)
    t.Reachable n ∧ (∃ a, ((Action.install 0).perform Bench.loader (t, b)).1 = .segments a) ∧
      ((Action.install 1).perform Bench.loader (t, b)).1 =
        .refused (.selectorMismatch "DS" .kernelData ⟨0⟩) := by
  intro n t m b
  have reachable : t.Reachable n := .kernel n (.table 0) .longMode (by decide)
  have readsBack (k : Nat) : ReadsBack Bench.loader (t, b) k :=
    install_readsBack reachable Bench.loader k
  have accepted (k : Nat) :
      ((Action.load k .kernelCode .kernelData).perform Bench.loader (t, b)).1 =
        .segments t.kernelSegments :=
    (Action.load_segments_iff ..).mpr (by decide)
  have blank : b.Keeps 0 .zero := ⟨.blank, rfl, rfl, rfl⟩
  refine ⟨reachable, ?_, ?_⟩
  · exact ((readsBack 0).remembered _ (Bench.remembers_loader 0) ⟨_, blank⟩).mpr ⟨_, accepted 0⟩
  · have installed := (readsBack 1).installed fun e he => by
      rw [accepted] at he
      cases he
    exact installed.data_differs rfl (by decide)

end Segmentation
