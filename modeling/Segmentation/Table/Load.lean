import Segmentation.Loader
import Segmentation.Table

/-! Loading a table. All that can be told from the table and the selectors alone is settled before
the loader is called. -/

namespace Segmentation

namespace Table

def lookup (t : Table) (s : Selector) : Except SegmentError Descriptor :=
  if !s.isGlobal || s.index = 0 then .error (.selectorOutOfBounds s)
  else match t.get? s.index with
    | none => .error (.selectorOutOfBounds s)
    | some d => .ok d

theorem lookup_eq_ok_iff {t : Table} {s : Selector} {d : Descriptor} :
    t.lookup s = .ok d ↔ s.isGlobal = true ∧ s.index ≠ 0 ∧ t.get? s.index = some d := by
  unfold lookup
  cases s.isGlobal <;> by_cases h : s.index = 0 <;> cases t.get? s.index <;> simp_all

/-- An entry of another privilege than the selector asks for counts as one of another kind. -/
def requireKind (t : Table) (kind : Descriptor → Bool) (refusal : Selector → SegmentError)
    (s : Selector) : Except SegmentError Unit := do
  let d ← t.lookup s
  if kind d && d.privilege = s.rpl then return () else throw (refusal s)

def requireCode (t : Table) (s : Selector) : Except SegmentError Unit :=
  t.requireKind Descriptor.isCode .notCodeSegment s

def requireData (t : Table) (s : Selector) : Except SegmentError Unit :=
  t.requireKind Descriptor.isData .notDataSegment s

def requireKernel (s : Selector) : Except SegmentError Unit :=
  if s.rpl = .ring0 then .ok () else .error (.notKernelSegment s)

def requireAligned (a : Address) : Except SegmentError Unit :=
  if a.isAligned then .ok () else .error (.misaligned a)

def accept (t : Table) (code data : Selector) : Except SegmentError ActiveSegments :=
  if t.len ≤ 1 then .error .notPopulated
  else do
    requireAligned t.base
    t.requireCode code
    t.requireData data
    requireKernel code
    requireKernel data
    return ⟨code, data, t.pointer⟩

end Table

namespace Record

def loaded (s : ActiveSegments) : Record where
  level := .info
  target := "ringos::gdt::table"
  message := "GDT loaded at " ++ s.table.base.hex ++ " (limit " ++
    Numeral.hex s.table.limit.toNat ++ "), CS=" ++ s.code.hex ++ " DS=" ++ s.data.hex

def loading (t : Table) : Record where
  level := .info
  target := "ringos::gdt"
  message := "loading GDT with " ++ Numeral.decimal t.len ++ " of " ++
    Numeral.decimal t.capacity ++ " entries"

def drawn (t : Table) : Record where
  level := .debug
  target := "ringos::gdt"
  message := t.text

end Record

namespace Table

variable {σ : Type} [Journal σ]

def load (loader : Loader σ) (code data : Selector) : TableM σ ActiveSegments := fun (t, w) =>
  match t.accept code data with
  | .error e => .error e (t, w)
  | .ok segments =>
    let w := loader.reloadSegments code data (loader.loadTable t.pointer w)
    .ok segments ({ t with loaded := true }, Journal.log (.loaded segments) w)

def announce : TableM σ Unit := fun (t, w) =>
  .ok () (t, Journal.log (.drawn t) (Journal.log (.loading t) w))

def outside (x : EStateM SegmentError σ α) : TableM σ α := fun (t, w) =>
  match x w with
  | .ok a w => .ok a (t, w)
  | .error e w => .error e (t, w)

def install (loader : Loader σ) : TableM σ ActiveSegments := do
  announce
  let segments ← load loader .kernelCode .kernelData
  outside (segments.verify loader)
  return segments

end Table

end Segmentation
