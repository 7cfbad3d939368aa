import Segmentation.Machine.Processor
import Segmentation.Proofs.ActiveSegments
import Segmentation.Serial

namespace Segmentation

namespace ActiveSegments

def selector (s : ActiveSegments) : Register → Selector
  | .cs => s.code
  | .ss | .ds | .es | .fs | .gs => s.data

end ActiveSegments

namespace Machine

def reads (m : Machine) : ActiveSegments := ⟨m.registers .cs, m.registers .ds, m.pointer⟩

def load (s : ActiveSegments) (m : Machine) : Machine :=
  reloadSegments s.code s.data (m.loadPointer s.table)

def loadEvents (s : ActiveSegments) : List Event :=
  [.loadPointer s.table, .write .cs s.code, .write .ss s.data, .write .ds s.data,
    .write .es s.data, .write .fs s.data, .write .gs s.data]

def readEvents : List Event := [.storePointer, .read .cs, .read .ds]

/-- What is left of a machine when its trace and its line are left out. -/
def bare (m : Machine) : Machine := { m with status := [], trace := [] }

section Processor

variable (m : Machine) (s : ActiveSegments)

theorem active_eq : m.active = (m.reads, m.emit readEvents) := by
  simp only [active, storePointer, read, reads, emit, readEvents, List.append_assoc]
  rfl

theorem trace_load : (m.load s).trace = m.trace ++ loadEvents s := by
  simp only [load, reloadSegments, loadPointer, write, emit, loadEvents, List.foldl_cons,
    List.foldl_nil, List.append_assoc]
  rfl

theorem registers_load (r : Register) :
    (m.load s).registers r = if m.stuck (.register r) then m.registers r else s.selector r := by
  cases hstuck : m.stuck (.register r) with
  | true =>
    cases r <;> simp [load, reloadSegments, loadPointer, write, hold, emit, hstuck]
  | false =>
    cases r <;> simp [load, reloadSegments, loadPointer, write, hold, emit, hstuck,
      ActiveSegments.selector]

theorem pointer_load :
    (m.load s).pointer =
      ⟨if m.stuck .tableBase then m.pointer.base else s.table.base,
        if m.stuck .tableLimit then m.pointer.limit else s.table.limit⟩ := rfl

@[simp] theorem bare_emit (events : List Event) : (m.emit events).bare = m.bare := rfl

@[simp] theorem bare_send (bytes : List UInt8) : (Serial.send bytes m).bare = m.bare := rfl

@[simp] theorem reads_bare : m.bare.reads = m.reads := rfl

@[simp] theorem load_bare : (m.bare.load s).bare = (m.load s).bare := rfl

end Processor

theorem bare_load_congr {m m' : Machine} (h : m.bare = m'.bare) (s : ActiveSegments) :
    (m.load s).bare = (m'.load s).bare := by
  rw [← load_bare, h, load_bare]

theorem reads_eq_of_bare {m m' : Machine} (h : m.bare = m'.bare) : m.reads = m'.reads := by
  rw [← reads_bare, h, reads_bare]

end Machine

end Segmentation
