import Segmentation.Proofs.Loader.Remembers
import Segmentation.Proofs.Table.Moment

namespace Segmentation

variable {σ : Type} [Journal σ]

def ActiveSegments.handAll (loaders : Nat → Loader σ) (a : ActiveSegments) (ks : List Nat)
    (w : σ) : σ :=
  ks.foldl (fun w k => a.handTo (loaders k) w) w

theorem Loader.Remembers.handAll {loaders : Nat → Loader σ} {k : Nat}
    {keeps : σ → ActiveSegments → Prop} (h : (loaders k).Remembers keeps)
    (apart : Apart loaders k keeps) (a : ActiveSegments) (ks : List Nat) {w : σ}
    {s : ActiveSegments} (hw : keeps w s) :
    keeps (a.handAll loaders ks w) (if k ∈ ks then a else s) := by
  induction ks generalizing w s with
  | nil => exact hw
  | cons j ks ih =>
    by_cases own : j = k
    · subst own
      have rest := ih (h.handTo a hw)
      rw [ite_self] at rest
      rwa [if_pos List.mem_cons_self]
    · have rest := ih (apart.handTo h a own hw)
      have mem : k ∈ j :: ks ↔ k ∈ ks := by simp [Ne.symm own]
      rw [if_congr mem rfl rfl]
      exact rest

namespace Action

def loads (code data : Selector) (ks : List Nat) : List Action := ks.map fun k => .load k code data

def told (loaders : Nat → Loader σ) (s : Table × σ) (as : List Action) :
    List (Answer × List Call) :=
  (history loaders s as).map fun m => (m.answer, m.calls)

section Loads

variable {loaders : Nat → Loader σ} {t : Table} {w : σ} {code data : Selector}
  {a : ActiveSegments} {e : SegmentError}

theorem perform_load_accepted (h : t.accept code data = .ok a) (k : Nat) :
    (load k code data).perform loaders (t, w) =
      (.segments a, t.markLoaded, a.handTo (loaders k) w) := by
  rw [perform_load, h]

theorem perform_load_refused (h : t.accept code data = .error e) (k : Nat) :
    (load k code data).perform loaders (t, w) = (.refused e, t, w) := by
  rw [perform_load, h]

theorem moment_load_accepted (h : t.accept code data = .ok a) (k : Nat) :
    (load k code data).moment loaders (t, w) =
      ⟨t, .load k code data, .segments a,
        [.loadTable k a.table, .reloadSegments k a.code a.data, .log (.loaded a)]⟩ := by
  rw [(perform_tapped loaders (perform_load_accepted h k)).2, calls_handTo]
  rfl

theorem moment_load_refused (h : t.accept code data = .error e) (k : Nat) :
    (load k code data).moment loaders (t, w) = ⟨t, .load k code data, .refused e, []⟩ :=
  (perform_tapped loaders (perform_load_refused h k)).2

theorem run_loads_accepted (h : t.accept code data = .ok a) {ks : List Nat} (nonempty : ks ≠ []) :
    run loaders (t, w) (loads code data ks) = (t.markLoaded, a.handAll loaders ks w) := by
  induction ks generalizing t w with
  | nil => exact absurd rfl nonempty
  | cons k ks ih =>
    change run loaders ((load k code data).perform loaders (t, w)).2 (loads code data ks) = _
    rw [perform_load_accepted h]
    cases ks with
    | nil => rfl
    | cons k' ks =>
      have next : t.markLoaded.accept code data = .ok a := (t.accept_loaded true code data).trans h
      exact ih next (List.cons_ne_nil k' ks)

theorem run_loads_refused (h : t.accept code data = .error e) (ks : List Nat) :
    run loaders (t, w) (loads code data ks) = (t, w) := by
  induction ks with
  | nil => rfl
  | cons k ks ih =>
    change run loaders ((load k code data).perform loaders (t, w)).2 (loads code data ks) = _
    rw [perform_load_refused h]
    exact ih

theorem told_cons (s : Table × σ) (b : Action) (bs : List Action) :
    told loaders s (b :: bs) =
      ((b.moment loaders s).answer, (b.moment loaders s).calls) ::
        told loaders (b.perform loaders s).2 bs := rfl

theorem told_loads_accepted (h : t.accept code data = .ok a) (ks : List Nat) :
    told loaders (t, w) (loads code data ks) =
      ks.map fun k => (.segments a,
        [.loadTable k a.table, .reloadSegments k a.code a.data, .log (.loaded a)]) := by
  induction ks generalizing t w with
  | nil => rfl
  | cons k ks ih =>
    change told loaders (t, w) (load k code data :: loads code data ks) = _
    have next : t.markLoaded.accept code data = .ok a := (t.accept_loaded true code data).trans h
    rw [told_cons, moment_load_accepted h, perform_load_accepted h, ih next]
    rfl

theorem told_loads_refused (h : t.accept code data = .error e) (ks : List Nat) :
    told loaders (t, w) (loads code data ks) = ks.map fun _ => (.refused e, []) := by
  induction ks with
  | nil => rfl
  | cons k ks ih =>
    change told loaders (t, w) (load k code data :: loads code data ks) = _
    rw [told_cons, moment_load_refused h, perform_load_refused h, ih]
    rfl

end Loads

end Action

namespace Table

variable {t : Table} {code data : Selector}

/-- The answer to any loader, and all that is asked of it. -/
def LoadsWith (t : Table) (code data : Selector) : Prop :=
  ∀ {σ : Type} [Journal σ] (loaders : Nat → Loader σ) (w : σ) (k : Nat),
    ((Action.load k code data).perform loaders (t, w)).1 = .segments ⟨code, data, t.pointer⟩ ∧
      ((Action.load k code data).moment loaders (t, w)).calls =
        [.loadTable k t.pointer, .reloadSegments k code data,
          .log (.loaded ⟨code, data, t.pointer⟩)]

/-- No loader can be made to take the table with these selectors, and none is asked. -/
def Refuses (t : Table) (code data : Selector) (e : SegmentError) : Prop :=
  ∀ {σ : Type} [Journal σ] (loaders : Nat → Loader σ) (w : σ) (k : Nat),
    (Action.load k code data).perform loaders (t, w) = (.refused e, t, w) ∧
      ((Action.load k code data).moment loaders (t, w)).calls = []

theorem loadsWith_of_accept {a : ActiveSegments} (h : t.accept code data = .ok a) :
    t.LoadsWith code data := by
  obtain ⟨-, -, -, -, -, -, rfl⟩ := accept_eq_ok_iff.mp h
  intro σ _ loaders w k
  rw [Action.perform_load_accepted h, Action.moment_load_accepted h]
  exact ⟨rfl, rfl⟩

theorem refuses_of_accept {e : SegmentError} (h : t.accept code data = .error e) :
    t.Refuses code data e := by
  intro σ _ loaders w k
  rw [Action.perform_load_refused h, Action.moment_load_refused h]
  exact ⟨rfl, rfl⟩

end Table

/-- All loaders are given the same, and those that remember it report it from their first load
on. -/
structure SharesLoaded (loaders : Nat → Loader σ) (s : Table × σ) (code data : Selector)
    (ks : List Nat) (a : ActiveSegments) : Prop where
  told : Action.told loaders s (Action.loads code data ks) =
    ks.map fun k => (.segments a,
      [.loadTable k s.1.pointer, .reloadSegments k code data, .log (.loaded a)])
  reports : ∀ {k keeps}, (loaders k).Remembers keeps → Loader.Apart loaders k keeps →
    (∃ before, keeps s.2 before) → ∀ past, past <+: ks → k ∈ past →
      ((loaders k).active (Action.run loaders s (Action.loads code data past)).2).1 = a
  stage : (Action.run loaders s (Action.loads code data ks)).1.stage = .loaded
  entries : (Action.run loaders s (Action.loads code data ks)).1.entries = s.1.entries
  len : (Action.run loaders s (Action.loads code data ks)).1.len = s.1.len

structure SharesRefused (loaders : Nat → Loader σ) (s : Table × σ) (code data : Selector)
    (ks : List Nat) (e : SegmentError) : Prop where
  told : Action.told loaders s (Action.loads code data ks) = ks.map fun _ => (.refused e, [])
  unchanged : Action.run loaders s (Action.loads code data ks) = s

theorem sharesLoaded_of_accept {loaders : Nat → Loader σ} {t : Table} {w : σ} {code data : Selector}
    {ks : List Nat} {a : ActiveSegments} (h : t.accept code data = .ok a) (nonempty : ks ≠ []) :
    SharesLoaded loaders (t, w) code data ks a := by
  have hrun : Action.run loaders (t, w) (Action.loads code data ks) =
      (t.markLoaded, a.handAll loaders ks w) := Action.run_loads_accepted h nonempty
  obtain ⟨-, -, -, -, -, -, rfl⟩ := Table.accept_eq_ok_iff.mp h
  constructor
  · exact Action.told_loads_accepted h ks
  · intro k keeps remembers apart ⟨before, hw⟩ past _ mem
    have kept := remembers.handAll apart ⟨code, data, t.pointer⟩ past hw
    rw [if_pos mem] at kept
    rw [Action.run_loads_accepted h (List.ne_nil_of_mem mem)]
    exact remembers.active kept
  · rw [hrun]
    rfl
  · rw [hrun]
    rfl
  · rw [hrun]
    rfl

theorem loads_shared (loaders : Nat → Loader σ) (s : Table × σ) (code data : Selector)
    {ks : List Nat} (nonempty : ks ≠ []) :
    ((∃ a, SharesLoaded loaders s code data ks a) ∨ ∃ e, SharesRefused loaders s code data ks e) ∧
      ∀ ks', ks'.Perm ks → (Action.run loaders s (Action.loads code data ks')).1 =
        (Action.run loaders s (Action.loads code data ks)).1 := by
  obtain ⟨t, w⟩ := s
  cases h : t.accept code data with
  | ok a =>
    refine ⟨.inl ⟨a, sharesLoaded_of_accept h nonempty⟩, fun ks' perm => ?_⟩
    have nonempty' : ks' ≠ [] := by
      rintro rfl
      exact nonempty perm.nil_eq.symm
    rw [Action.run_loads_accepted h nonempty, Action.run_loads_accepted h nonempty']
  | error e =>
    have refused : SharesRefused loaders (t, w) code data ks e :=
      ⟨Action.told_loads_refused h ks, Action.run_loads_refused h ks⟩
    refine ⟨.inr ⟨e, refused⟩, fun ks' _ => ?_⟩
    rw [Action.run_loads_refused h, Action.run_loads_refused h]

theorem loads_shared_recorder :
    let n : Capacity := ⟨8, by decide, by decide⟩
    let t := Table.writeAll (Table.flatWrites .longMode) (.new n (.table 0))
    let b := Bench.setProcessor 1 { Machine.idle with stuck := fun _ => true } (.empty 3)
    let ks := [0, 1, 0, 2]
    ks ≠ [] ∧
      ((Bench.loader 2).active
          (Action.run Bench.loader (t, b) (Action.loads .kernelCode .kernelData ks)).2).1 =
        ⟨.kernelCode, .kernelData, ⟨.table 0, 39⟩⟩ := by
  intro n t b ks
  have nonempty : ks ≠ [] := by decide
  refine ⟨nonempty, ?_⟩
  have answer : (Action.told Bench.loader (t, b) (Action.loads .kernelCode .kernelData ks)).map
      (·.1) = ks.map fun _ => .segments ⟨.kernelCode, .kernelData, ⟨.table 0, 39⟩⟩ := by
    decide
  rcases (loads_shared Bench.loader (t, b) .kernelCode .kernelData nonempty).1 with
    ⟨a, loaded⟩ | ⟨e, refused⟩
  · rw [loaded.told] at answer
    cases answer
    have blank : Bench.Keeps 2 b .zero := ⟨.blank, rfl, rfl, rfl⟩
    exact loaded.reports (Bench.remembers_loader 2) (Bench.apart_loader 2) ⟨_, blank⟩ ks
      List.prefix_rfl (by decide)
  · rw [refused.told] at answer
    cases answer

end Segmentation
