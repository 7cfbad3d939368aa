import Segmentation.Bench
import Segmentation.Proofs.Table.Action

namespace Segmentation

namespace Loader

variable {σ : Type} {keeps : σ → ActiveSegments → Prop}

/-- What one loader of a family keeps is nothing that a load by another changes. -/
structure Apart (loaders : Nat → Loader σ) (k : Nat) (keeps : σ → ActiveSegments → Prop) :
    Prop where
  loadTable : ∀ {j w s} p, j ≠ k → keeps w s → keeps ((loaders j).loadTable p w) s
  reloadSegments : ∀ {j w s} code data, j ≠ k → keeps w s →
    keeps ((loaders j).reloadSegments code data w) s

variable [Journal σ]

structure Remembers (l : Loader σ) (keeps : σ → ActiveSegments → Prop) : Prop where
  log : ∀ {w s} r, keeps w s → keeps (Journal.log r w) s
  loadTable : ∀ {w s} p, keeps w s → keeps (l.loadTable p w) { s with table := p }
  reloadSegments : ∀ {w s} code data, keeps w s →
    keeps (l.reloadSegments code data w) { s with code := code, data := data }
  active : ∀ {w s}, keeps w s → (l.active w).1 = s

theorem Remembers.announced {l : Loader σ} (h : l.Remembers keeps) (t : Table) {w : σ}
    {s : ActiveSegments} (hw : keeps w s) : keeps (t.announced w) s :=
  h.log (.drawn t) (h.log (.loading t) hw)

theorem Remembers.handTo {l : Loader σ} (h : l.Remembers keeps) (s : ActiveSegments) {w : σ}
    {s' : ActiveSegments} (hw : keeps w s') : keeps (s.handTo l w) s := by
  have table := h.loadTable s.table hw
  have selectors := h.reloadSegments s.code s.data table
  exact h.log (.loaded s) selectors

theorem Apart.handTo {loaders : Nat → Loader σ} {j k : Nat} (h : Apart loaders k keeps)
    (remembers : (loaders k).Remembers keeps) (s : ActiveSegments) (other : j ≠ k) {w : σ}
    {s' : ActiveSegments} (hw : keeps w s') : keeps (s.handTo (loaders j) w) s' := by
  have table := h.loadTable s.table other hw
  have selectors := h.reloadSegments s.code s.data other table
  exact remembers.log (.loaded s) selectors

end Loader

namespace Bench

def Keeps (k : Nat) (b : Bench) (s : ActiveSegments) : Prop :=
  ∃ seat, b.seats[k]? = some seat ∧ seat.isProcessor = false ∧ seat.recorder = ⟨s, .none⟩

theorem keeps_mapSeat_self {k : Nat} {b : Bench} {s s' : ActiveSegments} {f : Seat → Seat}
    (h : b.Keeps k s) (processor : ∀ seat, (f seat).isProcessor = seat.isProcessor)
    (recorder : ∀ seat, seat.recorder = ⟨s, .none⟩ → (f seat).recorder = ⟨s', .none⟩) :
    (b.mapSeat k f).Keeps k s' := by
  obtain ⟨seat, found, hprocessor, hrecorder⟩ := h
  refine ⟨f seat, ?_, ?_, recorder seat hrecorder⟩
  · simp [mapSeat, found]
  · rw [processor, hprocessor]

theorem keeps_mapSeat_of_ne {j k : Nat} {b : Bench} {s : ActiveSegments} (f : Seat → Seat)
    (h : b.Keeps k s) (other : j ≠ k) : (b.mapSeat j f).Keeps k s := by
  obtain ⟨seat, found, rest⟩ := h
  refine ⟨seat, ?_, rest⟩
  simp [mapSeat, other, found]

theorem part_of_keeps {k : Nat} {b : Bench} {s : ActiveSegments} (h : b.Keeps k s) :
    part k b = recorder k ∧ (b.seat k).recorder = ⟨s, .none⟩ := by
  obtain ⟨seat, found, hprocessor, hrecorder⟩ := h
  have hseat : b.seat k = seat := by
    rw [Bench.seat, List.getD_eq_getElem?_getD, found, Option.getD_some]
  rw [part, hseat, hprocessor]
  exact ⟨rfl, hrecorder⟩

theorem remembers_loader (k : Nat) : (loader k).Remembers (Keeps k) := by
  constructor
  · intro b s r h
    exact h
  · intro b s p h
    obtain ⟨hpart, hrecorder⟩ := part_of_keeps h
    have given : ((part k b).loadTable p b).Keeps k { s with table := p } := by
      rw [hpart]
      exact keeps_mapSeat_self h (fun _ => rfl) fun _ _ =>
        congrArg (Recorder.loader.loadTable p) hrecorder
    exact keeps_mapSeat_self given (fun _ => rfl) fun _ h => h
  · intro b s code data h
    obtain ⟨hpart, hrecorder⟩ := part_of_keeps h
    have given : ((part k b).reloadSegments code data b).Keeps k
        { s with code := code, data := data } := by
      rw [hpart]
      exact keeps_mapSeat_self h (fun _ => rfl) fun _ _ =>
        congrArg (Recorder.loader.reloadSegments code data) hrecorder
    exact keeps_mapSeat_self given (fun _ => rfl) fun _ h => h
  · intro b s h
    obtain ⟨hpart, hrecorder⟩ := part_of_keeps h
    change ((part k b).active b).1 = s
    rw [hpart]
    change (b.seat k).recorder.segments = s
    rw [hrecorder]
    rfl

theorem part_cases (j : Nat) (b : Bench) : part j b = processor ∨ part j b = recorder j := by
  rw [part]
  split
  · exact .inl rfl
  · exact .inr rfl

theorem apart_loader (k : Nat) : Loader.Apart loader k (Keeps k) := by
  constructor
  · intro j b s p other h
    have given : ((part j b).loadTable p b).Keeps k s := by
      rcases part_cases j b with hpart | hpart <;> rw [hpart]
      · exact h
      · exact keeps_mapSeat_of_ne _ h other
    exact keeps_mapSeat_of_ne _ given other
  · intro j b s code data other h
    have given : ((part j b).reloadSegments code data b).Keeps k s := by
      rcases part_cases j b with hpart | hpart <;> rw [hpart]
      · exact h
      · exact keeps_mapSeat_of_ne _ h other
    exact keeps_mapSeat_of_ne _ given other

end Bench

end Segmentation
