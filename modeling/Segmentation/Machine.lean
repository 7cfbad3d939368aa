import Segmentation.ActiveSegments

/-! The processor and the ports of a machine, as far as segments and the serial line need them.
Every instruction leaves an event. A part that is stuck ignores what is written to it. -/

namespace Segmentation

inductive Register where
  | cs | ss | ds | es | fs | gs
  deriving DecidableEq

def Register.name : Register → String
  | .cs => "cs"
  | .ss => "ss"
  | .ds => "ds"
  | .es => "es"
  | .fs => "fs"
  | .gs => "gs"

inductive Event where
  | disableInterrupts
  | halt
  | output (port : UInt16) (value : UInt8)
  | input (port : UInt16) (value : UInt8)
  | loadPointer (p : TablePointer)
  | storePointer
  | write (r : Register) (s : Selector)
  | read (r : Register)
  deriving DecidableEq

inductive Part where
  | register (r : Register)
  | tableBase
  | tableLimit
  deriving DecidableEq

/-- The line status is a list of values, one for each time that it is read. Once they are used up
the line is ready, and reading its status leaves no event. -/
structure Machine where
  registers : Register → Selector
  pointer : TablePointer
  stuck : Part → Bool
  status : List UInt8
  trace : List Event

namespace Machine

def idle : Machine where
  registers _ := ⟨0⟩
  pointer := .zero
  stuck _ := false
  status := []
  trace := []

def emit (m : Machine) (events : List Event) : Machine := { m with trace := m.trace ++ events }

@[simp] theorem trace_emit (m : Machine) (events : List Event) :
    (m.emit events).trace = m.trace ++ events := rfl

@[simp] theorem registers_emit (m : Machine) (events : List Event) :
    (m.emit events).registers = m.registers := rfl

@[simp] theorem pointer_emit (m : Machine) (events : List Event) :
    (m.emit events).pointer = m.pointer := rfl

def disableInterrupts (m : Machine) : Machine := m.emit [.disableInterrupts]

def halt (m : Machine) : Machine := m.emit [.halt]

def output (m : Machine) (port : UInt16) (value : UInt8) : Machine := m.emit [.output port value]

def hold (m : Machine) (r : Register) (s : Selector) : Register → Selector := fun q =>
  if q = r && !m.stuck (.register r) then s else m.registers q

def write (m : Machine) (r : Register) (s : Selector) : Machine :=
  { m.emit [.write r s] with registers := m.hold r s }

@[simp] theorem trace_write (m : Machine) (r : Register) (s : Selector) :
    (m.write r s).trace = m.trace ++ [.write r s] := rfl

theorem registers_write_self (m : Machine) (r : Register) (s : Selector)
    (h : m.stuck (.register r) = false) : (m.write r s).registers r = s := by
  simp [write, hold, h]

theorem registers_write_of_ne (m : Machine) (r q : Register) (s : Selector) (h : q ≠ r) :
    (m.write r s).registers q = m.registers q := by
  simp [write, hold, h]

def read (m : Machine) (r : Register) : Selector × Machine := (m.registers r, m.emit [.read r])

/-- The event tells the pointer, whether the machine takes it or not. -/
def loadPointer (m : Machine) (p : TablePointer) : Machine :=
  { m.emit [.loadPointer p] with
    pointer :=
      ⟨if m.stuck .tableBase then m.pointer.base else p.base,
        if m.stuck .tableLimit then m.pointer.limit else p.limit⟩ }

def storePointer (m : Machine) : TablePointer × Machine := (m.pointer, m.emit [.storePointer])

end Machine

end Segmentation
