import Segmentation.ActiveSegments
import Segmentation.Journal

/-! What puts a table and selectors to use. Nothing is assumed of a loader: it may do anything to
its world, and may report other segments than it was given. -/

namespace Segmentation

structure Loader (σ : Type) where
  loadTable : TablePointer → σ → σ
  reloadSegments : (code data : Selector) → σ → σ
  active : σ → ActiveSegments × σ

namespace Loader

def within (get : τ → σ) (put : σ → τ → τ) (l : Loader σ) : Loader τ where
  loadTable p w := put (l.loadTable p (get w)) w
  reloadSegments code data w := put (l.reloadSegments code data (get w)) w
  active w :=
    let (segments, s) := l.active (get w)
    (segments, put s w)

end Loader

namespace Record

def observed (s : ActiveSegments) : Record where
  level := .debug
  target := "ringos::gdt::verify"
  message := "CS=" ++ s.code.hex ++ " DS=" ++ s.data.hex ++ " GDTR=" ++ s.table.base.hex ++ "/" ++
    Numeral.hex s.table.limit.toNat

def verified : Record where
  level := .info
  target := "ringos::gdt::verify"
  message := "GDT verification passed"

end Record

def ActiveSegments.verify [Journal σ] (expected : ActiveSegments) (loader : Loader σ) :
    EStateM SegmentError σ Unit := fun w =>
  let (observed, w) := loader.active w
  let w := Journal.log (.observed observed) w
  match expected.check observed with
  | .error e => .error e w
  | .ok () => .ok () (Journal.log .verified w)

end Segmentation
