import Segmentation.Machine.Processor
import Segmentation.Serial

/-! The log of the kernel. Records pass the filter of the front, which is off until a logger is
installed, and then that of the logger, which writes them to the serial line. -/

namespace Segmentation

structure Logger where
  installed : Bool
  maxLevel : LevelFilter
  deriving DecidableEq

namespace Logger

def absent : Logger := ⟨false, .off⟩

/-- The kernel is built for debugging. A release build stops at `info`. -/
def filter : LevelFilter := .upTo .debug

structure AlreadyInstalled where
  deriving DecidableEq

def AlreadyInstalled.name : String := "SetLoggerError"

def AlreadyInstalled.message : String :=
  "attempted to set a logger after the logging system was already initialized"

def install (l : Logger) : Except AlreadyInstalled Logger :=
  if l.installed then .error ⟨⟩ else .ok ⟨true, filter⟩

def isEnabled (l : Logger) (level : Level) : Bool := l.installed && filter.admits level

end Logger

structure Console where
  machine : Machine
  logger : Logger

namespace Console

/-- Hands a record to the logger, past the filter of the front. -/
def write (r : Record) (c : Console) : Console :=
  if c.logger.isEnabled r.level then { c with machine := Serial.writeText r.line c.machine } else c

instance : Journal Console where
  log r c := if c.logger.maxLevel.admits r.level then c.write r else c

def processor : Loader Console :=
  Machine.processor.within machine fun m c => { c with machine := m }

end Console

end Segmentation
