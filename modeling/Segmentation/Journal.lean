namespace Segmentation

inductive Level where
  | error | warn | info | debug | trace
  deriving DecidableEq

namespace Level

def verbosity : Level → Nat
  | .error => 1
  | .warn => 2
  | .info => 3
  | .debug => 4
  | .trace => 5

def name : Level → String
  | .error => "ERROR"
  | .warn => "WARN"
  | .info => "INFO"
  | .debug => "DEBUG"
  | .trace => "TRACE"

end Level

inductive LevelFilter where
  | off | upTo (level : Level)
  deriving DecidableEq

namespace LevelFilter

def admits : LevelFilter → Level → Bool
  | .off, _ => false
  | .upTo most, level => level.verbosity ≤ most.verbosity

def name : LevelFilter → String
  | .off => "OFF"
  | .upTo level => level.name

end LevelFilter

structure Record where
  level : Level
  target : String
  message : String
  deriving DecidableEq

namespace Record

def line (r : Record) : String :=
  "[" ++ String.ofList (r.level.name.toList.leftpad 5 ' ') ++ "] " ++ r.target ++ ": " ++
    r.message ++ "\n"

end Record

/-- A world in which something becomes of each record. -/
class Journal (σ : Type) where
  log : Record → σ → σ

instance : Journal (Array Record) where
  log r records := records.push r

end Segmentation
