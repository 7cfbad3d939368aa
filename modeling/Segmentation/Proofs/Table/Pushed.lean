import Segmentation.Proofs.Table.Decision
import Segmentation.Proofs.Table.LastWrite
import Segmentation.Proofs.Table.Selectable
import Segmentation.Proofs.Table.Sharing
import Segmentation.Proofs.Table.Sparing

namespace Segmentation

namespace Selector

/-- The selector has room for the index and the ring, and for nothing else besides. -/
structure Tells (s : Selector) (index : Nat) (ring : Privilege) : Prop where
  raw_eq : s.raw.toNat = 8 * index + ring.level
  isGlobal : s.isGlobal = true
  index_eq : s.index = index
  index_ne : s.index ≠ 0
  rpl_eq : s.rpl = ring

theorem tells_ofIndex {i : Nat} (pos : 0 < i) (lt : i < 8192) (r : Privilege) :
    (ofIndex i.toUInt16 r).Tells i r where
  raw_eq := toNat_ofIndex lt r
  isGlobal := isGlobal_ofIndex lt r
  index_eq := index_ofIndex lt r
  index_ne := by
    rw [index_ofIndex lt r]
    exact Nat.ne_of_gt pos
  rpl_eq := rpl_ofIndex lt r

end Selector

namespace Table

/-- All selectors of an index refer to this descriptor, and if it is a segment of the kernel then
the one of ring 0 can be loaded with any that is good for the other part. -/
structure SelectedAt (index : UInt16) (d : Descriptor) (t : Table) : Prop where
  lookup_eq : ∀ r, t.lookup (.ofIndex index r) = .ok d
  loads_code_iff : t.base.isAligned = true → d.RunsKernel →
    ∀ data, t.LoadsWith (.ofIndex index .ring0) data ↔ t.Selects data Descriptor.isData
  loads_data_iff : t.base.isAligned = true → d.HoldsKernel →
    ∀ code, t.LoadsWith code (.ofIndex index .ring0) ↔ t.Selects code Descriptor.isCode

theorem loadsWith_iff {t : Table} (aligned : t.base.isAligned = true) {code data : Selector} :
    t.LoadsWith code data ↔
      t.Selects code Descriptor.isCode ∧ t.Selects data Descriptor.isData := by
  constructor
  · intro loads
    obtain ⟨answer, -⟩ := loads Bench.loader (.empty 0) 0
    rw [Action.load_segments_iff] at answer
    exact ((accept_ok_iff_selects aligned).mp ⟨_, answer⟩).2
  · intro both
    obtain ⟨i, -, pos, lt, -⟩ := both.1
    obtain ⟨a, accepted⟩ := (accept_ok_iff_selects aligned).mpr ⟨Nat.lt_of_le_of_lt pos lt, both⟩
    exact loadsWith_of_accept accepted

section Found

variable {t : Table} {i : Nat} {d : Descriptor} (found : t.get? i = some d) (pos : 0 < i)
  (lt : i < 8192)

include found pos lt

theorem selects_ofIndex {kind : Descriptor → Bool} (hkind : kind d = true)
    (ring : d.privilege = .ring0) : t.Selects (.ofIndex i.toUInt16 .ring0) kind :=
  (selects_iff kind).mpr ⟨names_ofIndex found pos lt hkind ring, Selector.rpl_ofIndex lt .ring0⟩

theorem selectedAt_of_get? : t.SelectedAt i.toUInt16 d := by
  constructor
  · exact lookup_ofIndex found pos lt
  · intro aligned runs data
    obtain ⟨isCode, ring⟩ := d.runsKernel_iff.mp runs
    rw [loadsWith_iff aligned, and_iff_right (selects_ofIndex found pos lt isCode ring)]
  · intro aligned holds code
    obtain ⟨isData, ring⟩ := d.holdsKernel_iff.mp holds
    rw [loadsWith_iff aligned, and_iff_left (selects_ofIndex found pos lt isData ring)]

end Found

end Table

variable {σ : Type} [Journal σ]

theorem pushed_selectable {n : Capacity} {s : Table × σ} (h : s.1.Reachable n)
    {loaders : Nat → Loader σ} {d : Descriptor} {index : UInt16}
    (pushed : ((Action.push d).perform loaders s).1 = .index index) :
    (∀ r, (Selector.ofIndex index r).Tells index.toNat r) ∧
      ∀ {τ : Type} [Journal τ] (others : Nat → Loader τ) (w : τ) (as : List Action),
        (∀ a ∈ as, a.Spares [index.toNat]) →
          (Action.run others (((Action.push d).perform loaders s).2.1, w) as).1.SelectedAt
            index d := by
  obtain ⟨t, w⟩ := s
  have wf : t.WellFormed n := h.wellFormed
  have room := (wf.push_index_iff loaders w d).mp ⟨index, pushed⟩
  obtain ⟨at_len, written⟩ := wf.push_at_len pushed
  obtain rfl : index = t.len.toUInt16 := UInt16.toNat_inj.mp (at_len.trans wf.toNat_len.symm)
  rw [at_len]
  refine ⟨Selector.tells_ofIndex wf.len_pos (Nat.lt_of_lt_of_le room n.le_max), ?_⟩
  intro τ _ others w' as spares
  have wf' := wf.run loaders w [.push d]
  have kept : ((Action.push d).perform loaders (t, w)).2.1.Has [(t.len, d)] := fun x mem => by
    cases List.mem_singleton.mp mem
    exact written
  have found := kept.run wf' others w' spares (t.len, d) (.head _)
  exact Table.selectedAt_of_get? found wf.len_pos ((wf'.run others w' as).index_lt_max found)

theorem pushed_selectable_last :
    let n : Capacity := ⟨8192, by decide, by decide⟩
    let code : Descriptor := .kernelCode .longMode
    let s := Action.run Bench.loader (.new n (.table 0), .empty 1) [.set 8190 .null]
    let as : List Action := [.set 1 (.kernelData .longMode), .push .null, .set 8190 .null]
    s.1.Reachable n ∧ ((Action.push code).perform Bench.loader s).1 = .index 8191 ∧
      (∀ a ∈ as, a.Spares [8191]) ∧ (∀ r, (Selector.ofIndex 8191 r).Tells 8191 r) ∧
      (Action.run Bench.loader (((Action.push code).perform Bench.loader s).2.1, .empty 1)
        as).1.SelectedAt 8191 code := by
  intro n code s as
  have made : (Table.new n (.table 0)).Reachable n := .made .fresh
  have reachable : s.1.Reachable n := made.run Bench.loader _ _
  have written : s = _ := congrArg Prod.snd
    (Action.perform_set_of_lt Bench.loader _ _ made.wellFormed (by decide) (by decide) .null)
  have last : s.1.len = 8191 := congrArg (fun s => s.1.len) written
  have push := Action.perform_push Bench.loader s.1 s.2 reachable.wellFormed code
  rw [Prod.mk.eta, last, if_neg (by decide)] at push
  have answer : ((Action.push code).perform Bench.loader s).1 = .index 8191 :=
    congrArg Prod.fst push
  have spares : ∀ a ∈ as, a.Spares [8191] := by simp [as, Action.Spares]
  obtain ⟨tells, selected⟩ := pushed_selectable reachable answer
  exact ⟨reachable, answer, spares, tells, selected Bench.loader (.empty 1) as spares⟩

end Segmentation
