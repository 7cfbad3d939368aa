import Segmentation.Kernel.Console
import Segmentation.Proofs.Loader.Tapped
import Segmentation.Proofs.Machine
import Segmentation.Proofs.Serial

namespace Segmentation

def Record.bytes (r : Record) : List UInt8 := utf8 r.line

namespace Logger

/-- The only two loggers that a process can have. -/
def ofInstalled : Bool → Logger
  | false => .absent
  | true => ⟨true, filter⟩

theorem install_ofInstalled (installed : Bool) :
    (ofInstalled installed).install =
      if installed then .error ⟨⟩ else .ok (ofInstalled true) := by
  cases installed <;> rfl

theorem isEnabled_ofInstalled (installed : Bool) (level : Level) :
    (ofInstalled installed).isEnabled level = (installed && filter.admits level) := by
  cases installed <;> rfl

theorem maxLevel_admits (installed : Bool) (level : Level) :
    (ofInstalled installed).maxLevel.admits level = (installed && filter.admits level) := by
  cases installed <;> rfl

end Logger

namespace Console

def send (bytes : List UInt8) (c : Console) : Console :=
  { c with machine := Serial.send bytes c.machine }

def admitted (installed : Bool) (r : Record) : List UInt8 :=
  if installed && Logger.filter.admits r.level then r.bytes else []

@[simp] theorem logger_send (bytes : List UInt8) (c : Console) :
    (c.send bytes).logger = c.logger := rfl

theorem send_nil (c : Console) : c.send [] = c := by rw [send, Serial.send_nil]

variable {c : Console} {installed : Bool}

theorem write_eq (h : c.logger = .ofInstalled installed) (r : Record) :
    c.write r = c.send (admitted installed r) := by
  have hlevel : c.logger.isEnabled r.level = (installed && Logger.filter.admits r.level) := by
    rw [h, Logger.isEnabled_ofInstalled]
  rw [write, hlevel, admitted]
  split
  · rw [Serial.writeText_eq]
    rfl
  · exact c.send_nil.symm

/-- The filter of the front never holds back what the logger would have written. -/
theorem log_eq (h : c.logger = .ofInstalled installed) (r : Record) :
    Journal.log r c = c.send (admitted installed r) := by
  have hlevel : c.logger.maxLevel.admits r.level = (installed && Logger.filter.admits r.level) := by
    rw [h, Logger.maxLevel_admits]
  change (if c.logger.maxLevel.admits r.level then c.write r else c) = _
  rw [hlevel, write_eq h, admitted]
  split
  · rfl
  · exact c.send_nil.symm

end Console

end Segmentation
