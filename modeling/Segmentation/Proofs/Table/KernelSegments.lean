import Segmentation.Bench
import Segmentation.Proofs.Table.KernelMade
import Segmentation.Proofs.Table.Selectable
import Segmentation.Proofs.Table.Sharing
import Segmentation.Proofs.Table.Sparing

namespace Segmentation

namespace Table

structure LoadsKernel (t : Table) : Prop where
  loads : t.LoadsWith .kernelCode .kernelData
  limit_eq : t.pointer.limit.toNat = 8 * t.len - 1
  limit_ge : 39 ≤ t.pointer.limit.toNat

/-- Each published selector names a segment of its own kind. Those of users are for later: to load
one in place of a kernel's is refused. -/
structure NamesPublished (t : Table) : Prop where
  kernelCode : t.Names .kernelCode Descriptor.isCode
  kernelData : t.Names .kernelData Descriptor.isData
  userCode : t.Names .userCode Descriptor.isCode
  userData : t.Names .userData Descriptor.isData
  userCode_for_code : t.Refuses .userCode .kernelData (.notKernelSegment .userCode)
  userData_for_code : t.Refuses .userData .kernelData (.notCodeSegment .userData)
  userCode_for_data : t.Refuses .kernelCode .userCode (.notDataSegment .userCode)
  userData_for_data : t.Refuses .kernelCode .userData (.notKernelSegment .userData)

section Published

variable {n : Capacity} {t : Table} {m : Mode} {code data s : Selector} {d : Descriptor}

theorem accept_eq_checks (populated : 1 < t.len) (aligned : t.base.isAligned = true)
    (code data : Selector) :
    t.accept code data = (do
      t.requireKind Descriptor.isCode .notCodeSegment code
      t.requireKind Descriptor.isData .notDataSegment data
      requireKernel code
      requireKernel data
      return ⟨code, data, t.pointer⟩) := by
  rw [accept, if_neg (Nat.not_le_of_lt populated), requireAligned_eq_ok_iff.mpr aligned]
  rfl

theorem requireKind_of_other {kind : Descriptor → Bool} (refusal : Selector → SegmentError)
    (found : t.lookup s = .ok d) (other : kind d = false) :
    t.requireKind kind refusal s = .error (refusal s) := by
  rw [requireKind, found]
  change (if kind d && d.privilege = s.rpl then _ else _) = _
  rw [other]
  rfl

theorem has_flatWrites (n : Capacity) (base : Address) (m : Mode) :
    Has (flatWrites m)
      (filled n base [.null, .kernelCode m, .kernelData m, .userCode m, .userData m]) := by
  intro x hx
  rw [get?_filled]
  simp only [flatWrites, List.mem_cons, List.not_mem_nil, or_false] at hx
  rcases hx with rfl | rfl | rfl | rfl <;> rfl

section Kernel

variable (kernel : t.Has [(1, .kernelCode m), (2, .kernelData m)])

include kernel

theorem names_kernelCode : t.Names .kernelCode Descriptor.isCode :=
  have found : t.get? 1 = some (.kernelCode m) := kernel (1, _) (.head _)
  names_ofIndex found (by decide) (by decide) (by cases m <;> rfl) (by cases m <;> rfl)

theorem names_kernelData : t.Names .kernelData Descriptor.isData :=
  have found : t.get? 2 = some (.kernelData m) := kernel (2, _) (.tail _ (.head _))
  names_ofIndex found (by decide) (by decide) (by cases m <;> rfl) (by cases m <;> rfl)

theorem populated_of_kernel : 1 < t.len := index_lt_len (kernel (1, _) (.head _))

theorem loadsKernel (wf : t.WellFormed n) (aligned : t.base.isAligned = true)
    (five : 5 ≤ t.len) : t.LoadsKernel := by
  have limit := limit_pointer wf.len_pos wf.len_le_max
  constructor
  · exact loadsWith_of_accept (accept_eq_ok_iff.mpr ⟨populated_of_kernel kernel, aligned,
      names_kernelCode kernel, names_kernelData kernel, rfl, rfl, rfl⟩)
  · exact limit
  · omega

theorem namesPublished (users : t.Has [(3, .userCode m), (4, .userData m)])
    (aligned : t.base.isAligned = true) : t.NamesPublished := by
  have kernelCode := names_kernelCode kernel
  have kernelData := names_kernelData kernel
  have code : t.get? 3 = some (.userCode m) := users (3, _) (.head _)
  have data : t.get? 4 = some (.userData m) := users (4, _) (.tail _ (.head _))
  have userCode : t.Names .userCode Descriptor.isCode :=
    names_ofIndex code (by decide) (by decide) (by cases m <;> rfl) (by cases m <;> rfl)
  have userData : t.Names .userData Descriptor.isData :=
    names_ofIndex data (by decide) (by decide) (by cases m <;> rfl) (by cases m <;> rfl)
  have checks := accept_eq_checks (populated_of_kernel kernel) aligned
  constructor
  · exact kernelCode
  · exact kernelData
  · exact userCode
  · exact userData
  · apply refuses_of_accept
    rw [checks, requireKind_eq_ok_iff.mpr userCode, requireKind_eq_ok_iff.mpr kernelData]
    rfl
  · apply refuses_of_accept
    have found : t.lookup .userData = _ := lookup_ofIndex data (by decide) (by decide) .ring3
    have other : (Descriptor.userData m).isCode = false := by cases m <;> rfl
    rw [checks, requireKind_of_other _ found other]
    rfl
  · apply refuses_of_accept
    have found : t.lookup .userCode = _ := lookup_ofIndex code (by decide) (by decide) .ring3
    have other : (Descriptor.userCode m).isData = false := by cases m <;> rfl
    rw [checks, requireKind_eq_ok_iff.mpr kernelCode, requireKind_of_other _ found other]
    rfl
  · apply refuses_of_accept
    rw [checks, requireKind_eq_ok_iff.mpr kernelCode, requireKind_eq_ok_iff.mpr userData]
    rfl

end Kernel

end Published

end Table

variable {σ : Type} [Journal σ]

theorem kernel_staysLoadable (n : Capacity) (base : Address) (m : Mode) (w : σ)
    (room : 5 ≤ n.slots) (aligned : base.isAligned = true) :
    ∃ t w', Table.kernel n base m w = .ok t w' ∧
      ∀ (loaders : Nat → Loader σ) (as : List Action), (∀ a ∈ as, a.Spares [1, 2]) →
        (Action.run loaders (t, w') as).1.LoadsKernel ∧
          ((∀ a ∈ as, a.Spares [3, 4]) → (Action.run loaders (t, w') as).1.NamesPublished) := by
  let t := Table.filled n base [.null, .kernelCode m, .kernelData m, .userCode m, .userData m]
  let w' := Journal.logAll (Table.flatRecords m) w
  have wf : t.WellFormed n := .filled rfl room
  have flat : t.Has (Table.flatWrites m) := Table.has_flatWrites n base m
  obtain ⟨kernel, users⟩ : t.Has [(1, .kernelCode m), (2, .kernelData m)] ∧
      t.Has [(3, .userCode m), (4, .userData m)] := Table.has_append.mp flat
  refine ⟨t, w', Table.kernel_eq_filled n base m w room, fun loaders as spares => ?_⟩
  have kernel' := Table.Has.run kernel wf loaders w' spares
  have aligned' : (Action.run loaders (t, w') as).1.base.isAligned = true := by
    rw [wf.base_run loaders w' as]
    exact aligned
  constructor
  · exact Table.loadsKernel kernel' (wf.run loaders w' as) aligned' (wf.len_le_run loaders w' as)
  · intro sparesUsers
    have users' := Table.Has.run users wf loaders w' sparesUsers
    exact Table.namesPublished kernel' users' aligned'

theorem kernel_staysLoadable_task :
    let n : Capacity := ⟨8, by decide, by decide⟩
    let as : List Action := [.push ⟨0x0000890000000067⟩, .set 7 (.userData .longMode), .push .null,
      .set 0 .null, .load 0 .userCode .kernelData]
    5 ≤ n.slots ∧ (Address.table 0).isAligned = true ∧ (∀ a ∈ as, a.Spares [1, 2]) ∧
      (∀ a ∈ as, a.Spares [3, 4]) ∧
      ∃ t w', Table.kernel n (.table 0) .longMode (Bench.empty 1) = .ok t w' ∧
        (Action.run Bench.loader (t, w') as).1.LoadsKernel ∧
        (Action.run Bench.loader (t, w') as).1.NamesPublished := by
  intro n as
  have room : 5 ≤ n.slots := by decide
  have spares : ∀ a ∈ as, a.Spares [1, 2] := by simp [as, Action.Spares]
  have sparesUsers : ∀ a ∈ as, a.Spares [3, 4] := by simp [as, Action.Spares]
  obtain ⟨t, w', made, stays⟩ :=
    kernel_staysLoadable n (.table 0) .longMode (Bench.empty 1) room rfl
  obtain ⟨loads, names⟩ := stays Bench.loader as spares
  exact ⟨room, rfl, spares, sparesUsers, t, w', made, loads, names sparesUsers⟩

end Segmentation
