import Segmentation.Loader
import Segmentation.Machine

namespace Segmentation.Machine

def reloadSegments (code data : Selector) (m : Machine) : Machine :=
  [Register.ss, .ds, .es, .fs, .gs].foldl (·.write · data) (m.write .cs code)

def active (m : Machine) : ActiveSegments × Machine :=
  let (table, m) := m.storePointer
  let (code, m) := m.read .cs
  let (data, m) := m.read .ds
  (⟨code, data, table⟩, m)

def processor : Loader Machine where
  loadTable p m := m.loadPointer p
  reloadSegments := reloadSegments
  active := active

end Segmentation.Machine
