import Segmentation.Proofs.Loader.Tapped
import Segmentation.Table.Kernel

namespace Segmentation.Table

variable {σ : Type} [Journal σ]

def flatWrites (m : Mode) : List (Nat × Descriptor) :=
  [(1, .kernelCode m), (2, .kernelData m), (3, .userCode m), (4, .userData m)]

def writeAll (writes : List (Nat × Descriptor)) (t : Table) : Table :=
  writes.foldl (fun t x => t.write x.1 x.2) t

def records (writes : List (Nat × Descriptor)) : List Record :=
  writes.map fun x => .written x.1 x.2

def setAll : List (Nat × Descriptor) → TableM σ Unit
  | [] => pure ()
  | x :: xs => do set x.1 x.2; setAll xs

theorem writeFlat_eq (m : Mode) : (writeFlat m : TableM σ Unit) = setAll (flatWrites m) := by
  simp only [flatWrites, setAll]
  have last (x : TableM σ PUnit) : (do x; pure PUnit.unit) = x := by
    funext s
    change EStateM.bind _ _ s = _
    unfold EStateM.bind
    cases x s <;> rfl
  rw [last]
  rfl

theorem setAll_cons (x : Nat × Descriptor) (xs : List (Nat × Descriptor)) (t : Table) (w : σ)
    (h₀ : x.1 ≠ 0) (h : x.1 < t.capacity) :
    setAll (x :: xs) (t, w) = setAll xs (t.write x.1 x.2, Journal.log (.written x.1 x.2) w) := by
  change EStateM.bind _ _ _ = _
  rw [EStateM.bind, set_ok t w x.1 x.2 h₀ h]

theorem setAll_ok (xs : List (Nat × Descriptor)) (t : Table) (w : σ)
    (h : ∀ x ∈ xs, x.1 ≠ 0 ∧ x.1 < t.capacity) :
    setAll xs (t, w) = .ok () (writeAll xs t, Journal.logAll (records xs) w) := by
  induction xs generalizing t w with
  | nil => rfl
  | cons x xs ih =>
    obtain ⟨h₀, hx⟩ := h x List.mem_cons_self
    rw [setAll_cons x xs t w h₀ hx, ih]
    · rfl
    · intro y hy
      rw [capacity_write]
      exact h y (List.mem_cons_of_mem x hy)

theorem setAll_refused (xs : List (Nat × Descriptor)) (y : Nat × Descriptor)
    (ys : List (Nat × Descriptor)) (t : Table) (w : σ)
    (h : ∀ x ∈ xs, x.1 ≠ 0 ∧ x.1 < t.capacity) (h₀ : y.1 ≠ 0) (hy : t.capacity ≤ y.1) :
    setAll (xs ++ y :: ys) (t, w) =
      .error (.indexOutOfRange y.1 t.capacity)
        (writeAll xs t, Journal.logAll (records xs) w) := by
  induction xs generalizing t w with
  | nil =>
    change EStateM.bind _ _ _ = _
    simp only [EStateM.bind, set, if_neg h₀, if_pos hy]
    rfl
  | cons x xs ih =>
    obtain ⟨hx₀, hx⟩ := h x List.mem_cons_self
    rw [List.cons_append, setAll_cons x _ t w hx₀ hx, ih, capacity_write]
    · rfl
    · intro z hz
      rw [capacity_write]
      exact h z (List.mem_cons_of_mem x hz)
    · rwa [capacity_write]

theorem flatWrites_split (m : Mode) {k : Nat} (pos : 0 < k) (lt : k < 5) :
    ∃ earlier d later, (flatWrites m).take (k - 1) = earlier ∧
      flatWrites m = earlier ++ (k, d) :: later ∧ ∀ x ∈ earlier, x.1 ≠ 0 ∧ x.1 < k := by
  match k, pos, lt with
  | 1, _, _ | 2, _, _ | 3, _, _ | 4, _, _ => exact ⟨_, _, _, rfl, rfl, by simp [flatWrites]⟩

theorem kernel_of_le (n : Capacity) (base : Address) (m : Mode) (w : σ) (h : 5 ≤ n.slots) :
    kernel n base m w =
      .ok (writeAll (flatWrites m) (new n base)) (Journal.logAll (records (flatWrites m)) w) := by
  rw [kernel, writeFlat_eq, setAll_ok]
  intro x hx
  simp only [flatWrites, List.mem_cons, List.not_mem_nil, or_false] at hx
  rw [capacity_new]
  rcases hx with rfl | rfl | rfl | rfl <;> simp <;> omega

theorem kernel_of_lt (n : Capacity) (base : Address) (m : Mode) (w : σ) (h : n.slots < 5) :
    kernel n base m w =
      .error (.indexOutOfRange n.slots n.slots)
        (Journal.logAll (records ((flatWrites m).take (n.slots - 1))) w) := by
  obtain ⟨earlier, d, later, htake, hsplit, hearlier⟩ := flatWrites_split m n.pos h
  have hcapacity : (new n base).capacity = n.slots := capacity_new n base
  rw [htake, kernel, writeFlat_eq, hsplit, setAll_refused, hcapacity]
  · rwa [hcapacity]
  · exact Nat.pos_iff_ne_zero.mp n.pos
  · exact Nat.le_of_eq hcapacity

theorem kernel_cases (n : Capacity) (base : Address) (m : Mode) (w : σ) :
    (∃ rs, kernel n base m w = .ok (writeAll (flatWrites m) (new n base)) (Journal.logAll rs w) ∧
        5 ≤ n.slots) ∨
      ∃ e rs, kernel n base m w = .error e (Journal.logAll rs w) ∧ n.slots < 5 := by
  by_cases h : 5 ≤ n.slots
  · exact .inl ⟨_, kernel_of_le n base m w h, h⟩
  · exact .inr ⟨_, _, kernel_of_lt n base m w (by omega), by omega⟩

end Segmentation.Table
