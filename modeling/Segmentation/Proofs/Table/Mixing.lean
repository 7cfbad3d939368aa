import Segmentation.Bench
import Segmentation.Proofs.Table.Reachable
import Segmentation.Proofs.Table.Selectable

/-! Segments of 32-bit and of 64-bit code at once, which no processor runs. A load asks for the
access byte of a code segment and not for its size, so that only a table without such a segment, or
one that no load gets anything from, keeps it away from the processor. -/

namespace Segmentation

variable {σ : Type} [Journal σ]

def Descriptor.mixesSizes (d : Descriptor) : Bool :=
  d.granularity.contains .size32 && d.granularity.contains .longMode

theorem loads_unmixed_iff {n : Capacity} {s : Table × σ} (h : s.1.Reachable n)
    (aligned : s.1.base.isAligned = true) (loaders : Nat → Loader σ) :
    (∀ k code data a d, ((Action.load k code data).perform loaders s).1 = .segments a →
        s.1.lookup code = .ok d → d.mixesSizes = false) ↔
      ∀ j e, s.1.get? j = some e → e.HoldsKernel →
        ∀ i d, s.1.get? i = some d → d.RunsKernel → d.mixesSizes = false := by
  obtain ⟨t, w⟩ := s
  have wf : t.WellFormed n := h.wellFormed
  constructor
  · intro unmixed j e data holds i d code runs
    have pos := wf.index_pos code runs.present
    have lt := wf.index_lt_max code
    have found := Table.lookup_ofIndex code pos lt .ring0
    have populated : 1 < t.len := Nat.lt_of_le_of_lt pos (Table.index_lt_len code)
    obtain ⟨isCode, codeRing⟩ := d.runsKernel_iff.mp runs
    obtain ⟨isData, dataRing⟩ := e.holdsKernel_iff.mp holds
    have lt' := wf.index_lt_max data
    have names := Table.names_ofIndex code pos lt isCode codeRing
    have names' := Table.names_ofIndex data (wf.index_pos data holds.present) lt' isData dataRing
    have accepted := Table.accept_eq_ok_iff.mpr ⟨populated, aligned, names, names',
      Selector.rpl_ofIndex lt .ring0, Selector.rpl_ofIndex lt' .ring0, rfl⟩
    exact unmixed 0 _ _ _ d ((Action.load_segments_iff loaders t w).mpr accepted) found
  · intro unmixed k code data a d answer found
    rw [Action.load_segments_iff] at answer
    obtain ⟨-, hcode, hdata⟩ := Table.accept_loadable wf.len_le_max answer
    obtain ⟨c, hc, runs⟩ := hcode.entry
    obtain ⟨e, he, holds⟩ := hdata.entry
    obtain ⟨-, -, hd⟩ := Table.lookup_eq_ok_iff.mp found
    rw [hd] at hc
    cases hc
    exact unmixed _ e he holds _ d hd runs

theorem loads_unmixed_kernel :
    let n : Capacity := ⟨8, by decide, by decide⟩
    let t := Table.writeAll (Table.flatWrites .longMode) (.new n (.table 0))
    t.Reachable n ∧ t.base.isAligned = true ∧
      ∀ k code data a d,
        ((Action.load k code data).perform Bench.loader (t, .empty 1)).1 = .segments a →
          t.lookup code = .ok d → d.mixesSizes = false := by
  intro n t
  have reachable : t.Reachable n := .kernel n (.table 0) .longMode (by decide)
  have entries : ∀ d ∈ t.entries, d.mixesSizes = false := by decide
  refine ⟨reachable, rfl, (loads_unmixed_iff reachable rfl Bench.loader).mpr ?_⟩
  intro _ _ _ _ i d found _
  rw [← Table.getElem?_entries] at found
  exact entries d (List.mem_of_getElem? found)

theorem load_mixed :
    let n : Capacity := ⟨8, by decide, by decide⟩
    let mixed : Descriptor := .flat Descriptor.codeAccess (.pages ||| .size32 ||| .longMode)
    let s := Action.run Bench.loader (.new n (.table 0), .empty 1)
      [.push mixed, .push (.kernelData .longMode)]
    s.1.Reachable n ∧
      ((Action.load 0 .kernelCode .kernelData).perform Bench.loader s).1 =
        .segments ⟨.kernelCode, .kernelData, ⟨.table 0, 23⟩⟩ ∧
      s.1.lookup .kernelCode = .ok mixed ∧ mixed.mixesSizes = true := by
  intro n mixed s
  have made : (Table.new n (.table 0)).Reachable n := .made .fresh
  exact ⟨made.run Bench.loader _ _, by decide, by decide, by decide⟩

end Segmentation
