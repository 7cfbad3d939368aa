import Segmentation.Proofs.Table.LastWrite

namespace Segmentation

variable {σ : Type} [Journal σ]

def Action.Spares (kept : List Nat) : Action → Prop
  | .set index _ => index ∉ kept
  | .push _ => True
  | .load _ _ _ => True
  | .install _ => True

namespace Table.WellFormed

variable {n : Capacity} {t : Table} {kept : List Nat} {k : Nat}

theorem written?_of_spares (h : t.WellFormed n) {loaders : Nat → Loader σ} {w : σ} {a : Action}
    (spares : a.Spares kept) (mem : k ∈ kept) (lt : k < t.len) (d : Descriptor) :
    (a.moment loaders (t, w)).written? ≠ some (k, d) := by
  intro written
  have answer : (a.moment loaders (t, w)).answer = _ := a.answer_moment loaders (t, w)
  rw [Moment.written?, answer] at written
  cases a with
  | push e =>
    cases pushed : ((Action.push e).perform loaders (t, w)).1 with
    | index index =>
      obtain ⟨atLen, -⟩ := h.push_at_len pushed
      rw [pushed] at written
      cases written
      exact Nat.ne_of_lt lt atLen
    | _ =>
      rw [pushed] at written
      cases written
  | set index e =>
    cases done : ((Action.set index e).perform loaders (t, w)).1 with
    | done =>
      rw [done] at written
      cases written
      exact spares mem
    | _ =>
      rw [done] at written
      cases written
  | load j code data => cases written
  | install j => cases written

theorem get?_perform_of_spares (h : t.WellFormed n) (loaders : Nat → Loader σ) (w : σ) {a : Action}
    (spares : a.Spares kept) (mem : k ∈ kept) (lt : k < t.len) :
    (a.perform loaders (t, w)).2.1.get? k = t.get? k :=
  (h.perform_keeps loaders w a).2 k lt (h.written?_of_spares spares mem lt)

theorem get?_run_of_spares (h : t.WellFormed n) (loaders : Nat → Loader σ) (w : σ)
    {as : List Action} (spares : ∀ a ∈ as, a.Spares kept) (mem : k ∈ kept) (lt : k < t.len) :
    (Action.run loaders (t, w) as).1.get? k = t.get? k := by
  have step {t' : Table} (w : σ) (a : Action) (ha : a ∈ as) (wf : t'.WellFormed n) :
      k < t'.len ∧ t'.get? k = t.get? k →
        k < (a.perform loaders (t', w)).2.1.len ∧
          (a.perform loaders (t', w)).2.1.get? k = t.get? k := by
    rintro ⟨lt, same⟩
    have kept := wf.get?_perform_of_spares loaders w (spares a ha) mem lt
    exact ⟨Nat.lt_of_lt_of_le lt (leads_perform wf loaders w a).len_le, kept.trans same⟩
  exact (run_keeps step h w ⟨lt, rfl⟩).2

end Table.WellFormed

def Table.Has (entries : List (Nat × Descriptor)) (t : Table) : Prop :=
  ∀ x ∈ entries, t.get? x.1 = some x.2

theorem Table.has_append {t : Table} {xs ys : List (Nat × Descriptor)} :
    t.Has (xs ++ ys) ↔ t.Has xs ∧ t.Has ys :=
  List.forall_mem_append

theorem Table.Has.run {n : Capacity} {t : Table} {entries : List (Nat × Descriptor)}
    (h : t.Has entries) (wf : t.WellFormed n) (loaders : Nat → Loader σ) (w : σ) {as : List Action}
    (spares : ∀ a ∈ as, a.Spares (entries.map (·.1))) :
    (Action.run loaders (t, w) as).1.Has entries := by
  intro x hx
  have lt := Table.index_lt_len (h x hx)
  rw [wf.get?_run_of_spares loaders w spares (List.mem_map_of_mem hx) lt]
  exact h x hx

end Segmentation
