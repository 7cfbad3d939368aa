import Segmentation.Kernel.Boot

/-! The life of a kernel on a host as a sequence of commands. The logger and the kernel's table
outlive a change of machine. -/

namespace Segmentation

inductive Command where
  | configureSerial
  | writeByte (byte : UInt8)
  | writeText (text : String)
  | installLogger
  | maxLevel
  | log (r : Record)
  | record (r : Record)
  | boot
  | rest
  | halt
  | replace (m : Machine)
  | registers

inductive Reply where
  | done
  | alreadyInstalled
  | maxLevel (filter : LevelFilter)
  | enabled (isEnabled : Bool)
  | booted (s : ActiveSegments)
  | failed (e : BootError)
  | halted
  | notBooted
  | registers (values : Register → Selector) (pointer : TablePointer)

/-- The segments are those of the last boot that succeeded, until they are used to go on. -/
structure Host where
  kernel : Kernel
  segments : Option ActiveSegments

namespace Host

def start (m : Machine) : Host := ⟨.fresh m, none⟩

def machine (h : Host) : Machine := h.kernel.console.machine

def logger (h : Host) : Logger := h.kernel.console.logger

def mapConsole (f : Console → Console) (h : Host) : Host :=
  { h with kernel.console := f h.kernel.console }

def mapMachine (f : Machine → Machine) : Host → Host :=
  mapConsole fun c => { c with machine := f c.machine }

def installLogger (h : Host) : Reply × Host :=
  match h.logger.install with
  | .error _ => (.alreadyInstalled, h)
  | .ok l => (.done, h.mapConsole fun c => { c with logger := l })

def boot (h : Host) : Reply × Host :=
  match Kernel.boot h.kernel with
  | .ok s k => (.booted s, ⟨k, some s⟩)
  | .error e k => (.failed e, { h with kernel := k })

def rest (h : Host) : Reply × Host :=
  match h.segments with
  | none => (.notBooted, h)
  | some s => (.halted, ⟨h.kernel.rest s, none⟩)

def perform (h : Host) : Command → Reply × Host
  | .configureSerial => (.done, h.mapMachine Serial.configure)
  | .writeByte byte => (.done, h.mapMachine (Serial.writeByte byte))
  | .writeText text => (.done, h.mapMachine (Serial.writeText text))
  | .installLogger => h.installLogger
  | .maxLevel => (.maxLevel h.logger.maxLevel, h)
  | .log r => (.done, h.mapConsole (Journal.log r))
  | .record r => (.enabled (h.logger.isEnabled r.level), h.mapConsole (Console.write r))
  | .boot => h.boot
  | .rest => h.rest
  | .halt => (.halted, h.mapMachine Machine.halt)
  | .replace m => (.done, h.mapMachine fun _ => m)
  | .registers => (.registers h.machine.registers h.machine.pointer, h)

def run (h : Host) (commands : List Command) : Host :=
  commands.foldl (fun h c => (h.perform c).2) h

def clearTrace : Host → Host := mapMachine fun m => { m with trace := [] }

end Host

end Segmentation
