import Segmentation.Bench
import Segmentation.Proofs.ActiveSegments
import Segmentation.Proofs.Table.Reachable

namespace Segmentation

variable {σ : Type} [Journal σ]

namespace Action

variable {n : Capacity} {t : Table} {loaders : Nat → Loader σ} {w : σ} {a : Action}
  {e : SegmentError}

theorem perform_refused (wf : t.WellFormed n) (short : ∀ k, a ≠ .install k)
    (refused : (a.perform loaders (t, w)).1 = .refused e) :
    (a.perform loaders (t, w)).2 = (t, w) := by
  cases a with
  | push d =>
    rw [perform_push loaders t w wf] at refused ⊢
    by_cases full : n.slots ≤ t.len
    · rw [if_pos full]
    · rw [if_neg full] at refused
      cases refused
  | set index d =>
    rw [perform_set loaders t w wf] at refused ⊢
    by_cases first : index = 0
    · rw [if_pos first]
    · by_cases outside : n.slots ≤ index
      · rw [if_neg first, if_pos outside]
      · rw [if_neg first, if_neg outside] at refused
        cases refused
  | load k code data =>
    rw [perform_load] at refused ⊢
    cases accept : t.accept code data with
    | error e => rfl
    | ok s =>
      rw [accept] at refused
      cases refused
  | install k => exact absurd rfl (short k)

theorem install_unloaded {k : Nat}
    (refused : ((install k).perform loaders (t, w)).1 = .refused e)
    (unloaded : e.isMismatch = false) :
    ((install k).perform loaders (t, w)).2 = (t, t.announced w) := by
  cases accept : t.accept .kernelCode .kernelData with
  | error e' => rw [perform_install_refused loaders w k accept]
  | ok s =>
    rw [perform_install_accepted loaders w k accept] at refused
    dsimp only at refused
    split at refused
    · next e' mismatch =>
      cases refused
      rw [ActiveSegments.isMismatch_of_check mismatch] at unloaded
      cases unloaded
    · cases refused

theorem push_refused_iff (wf : t.WellFormed n) (d : Descriptor) :
    ((push d).perform loaders (t, w)).1 = .refused e ↔
      e = .tableFull n.slots ∧ t.len = n.slots := by
  rw [perform_push loaders t w wf]
  by_cases full : n.slots ≤ t.len
  · have hlen : t.len = n.slots := Nat.le_antisymm wf.len_le full
    rw [if_pos full]
    simp [hlen, eq_comm]
  · have hlen : t.len ≠ n.slots := fun h => full (Nat.le_of_eq h.symm)
    rw [if_neg full]
    simp [hlen]

theorem tapped_refused (refused : (a.perform loaders (t, w)).1 = .refused e) :
    (a.perform (Loader.tapAll loaders) (t, .start w)).1 = .refused e :=
  (answer_moment loaders a (t, w)).trans refused

end Action

/-- What a refusal leaves behind: the same table and the same world, of which nothing was asked. An
installation that ends before its load has told the log what it was about to do. -/
structure RefusesIntact (loaders : Nat → Loader σ) (n : Capacity) (s : Table × σ) : Prop where
  refused : ∀ (a : Action) e, (∀ k, a ≠ .install k) → (a.perform loaders s).1 = .refused e →
    (a.perform loaders s).2 = s ∧ (a.moment loaders s).calls = []
  uninstalled : ∀ k e, ((Action.install k).perform loaders s).1 = .refused e →
    e.isMismatch = false →
      ((Action.install k).perform loaders s).2 =
          (s.1, Journal.log (.drawn s.1) (Journal.log (.loading s.1) s.2)) ∧
        ((Action.install k).moment loaders s).calls = [.log (.loading s.1), .log (.drawn s.1)]
  push_refused_iff : ∀ d e, ((Action.push d).perform loaders s).1 = .refused e ↔
    e = .tableFull n.slots ∧ s.1.len = n.slots

theorem reachable_refusesIntact {n : Capacity} {s : Table × σ} (h : s.1.Reachable n)
    (loaders : Nat → Loader σ) : RefusesIntact loaders n s := by
  obtain ⟨t, w⟩ := s
  have wf : t.WellFormed n := h.wellFormed
  constructor
  · intro a e short refused
    have tapped := Action.perform_refused wf short (Action.tapped_refused refused)
    exact ⟨Action.perform_refused wf short refused, congrArg (fun s => s.2.calls) tapped⟩
  · intro k e refused unloaded
    have tapped := Action.install_unloaded (Action.tapped_refused refused) unloaded
    exact ⟨Action.install_unloaded refused unloaded, congrArg (fun s => s.2.calls) tapped⟩
  · intro d e
    exact Action.push_refused_iff wf d

theorem reachable_refusesIntact_full :
    let n : Capacity := ⟨5, by decide, by decide⟩
    let t := Table.writeAll (Table.flatWrites .longMode) (.new n (.table 0))
    let s := Action.run Bench.loader (t, .empty 2)
      [.load 0 .kernelCode .kernelData, .load 1 .userCode .userData]
    s.1.Reachable n ∧ RefusesIntact Bench.loader n s ∧
      ((Action.push .null).perform Bench.loader s).1 = .refused (.tableFull 5) := by
  intro n t s
  have made : t.Reachable n := .kernel n (.table 0) .longMode (by decide)
  have reachable : s.1.Reachable n := made.run Bench.loader _ _
  have intact := reachable_refusesIntact reachable Bench.loader
  have full : s.1.len = n.slots := by decide
  have told := (intact.push_refused_iff .null (.tableFull 5)).mpr ⟨rfl, full⟩
  exact ⟨reachable, intact, told⟩

end Segmentation
