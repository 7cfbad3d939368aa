import Segmentation.Kernel.Console
import Segmentation.Table.Kernel
import Segmentation.Table.Load

namespace Segmentation

inductive BootError where
  | loggerInstalled
  | segments (e : SegmentError)
  deriving DecidableEq

def BootError.message : BootError → String
  | .loggerInstalled => "a logger was already installed"
  | .segments e => "GDT setup failed: " ++ e.message

/-- The table is built once and then kept. -/
structure Kernel where
  console : Console
  table : Option Table

abbrev BootM := EStateM BootError Kernel

namespace Kernel

def capacity : Capacity := ⟨8, by decide, by decide⟩

def mode : Mode := .longMode

def fresh (m : Machine) : Kernel := ⟨⟨m, .absent⟩, none⟩

def onMachine (f : Machine → Machine) (k : Kernel) : Kernel :=
  { k with console.machine := f k.console.machine }

def log (level : Level) (message : String) (k : Kernel) : Kernel :=
  { k with console := Journal.log ⟨level, "ringos::kernel", message⟩ k.console }

def installLogger : BootM Unit := fun k =>
  match k.console.logger.install with
  | .error _ => .error .loggerInstalled k
  | .ok l => .ok () { k with console.logger := l }

def sharedTable : BootM Table := fun k =>
  match k.table with
  | some t => .ok t k
  | none =>
    match Table.kernel capacity (.table 0) mode k.console with
    | .ok t c => .ok t ⟨c, some t⟩
    | .error e c => .error (.segments e) { k with console := c }

def installTable (t : Table) : BootM ActiveSegments := fun k =>
  match Table.install Console.processor (t, k.console) with
  | .ok segments (t, c) => .ok segments ⟨c, some t⟩
  | .error e (t, c) => .error (.segments e) ⟨c, some t⟩

def ready (s : ActiveSegments) : String :=
  "segments ready: kernel CS=" ++ s.code.hex ++ " DS=" ++ s.data.hex ++ ", user CS=" ++
    Selector.userCode.hex ++ " DS=" ++ Selector.userData.hex

def boot : BootM ActiveSegments := do
  modify (onMachine .disableInterrupts)
  modify (onMachine Serial.configure)
  installLogger
  modify (log .info "kernel running")
  let table ← sharedTable
  let segments ← installTable table
  modify (log .info (ready segments))
  return segments

def rest (s : ActiveSegments) (k : Kernel) : Kernel :=
  (k.log .debug ("idle with CS=" ++ s.code.hex)).onMachine .halt

end Kernel

end Segmentation
