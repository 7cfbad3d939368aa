import Segmentation.Machine

namespace Segmentation.Serial

def dataPort : UInt16 := 0x3F8

def interruptPort : UInt16 := 0x3F9

def controlPort : UInt16 := 0x3FB

def modemPort : UInt16 := 0x3FC

def statusPort : UInt16 := 0x3FD

def isReady (status : UInt8) : Bool := status &&& 0x20 ≠ 0

/-- No interrupts, eight bits without parity, both modem lines up. -/
def configure (m : Machine) : Machine :=
  ((m.output interruptPort 0x00).output controlPort 0x03).output modemPort 0x03

/-- Reads the status until it is ready. The second part is the status still to come. -/
def await : List UInt8 → List Event × List UInt8
  | [] => ([], [])
  | status :: later =>
    if isReady status then ([.input statusPort status], later)
    else
      let (events, later) := await later
      (.input statusPort status :: events, later)

def transmit : (bytes status : List UInt8) → List Event × List UInt8
  | [], status => ([], status)
  | byte :: bytes, status =>
    let (waiting, status) := await status
    let (events, status) := transmit bytes status
    (waiting ++ .output dataPort byte :: events, status)

def send (bytes : List UInt8) (m : Machine) : Machine :=
  let (events, status) := transmit bytes m.status
  { m.emit events with status := status }

@[simp] theorem trace_send (bytes : List UInt8) (m : Machine) :
    (send bytes m).trace = m.trace ++ (transmit bytes m.status).1 := rfl

@[simp] theorem registers_send (bytes : List UInt8) (m : Machine) :
    (send bytes m).registers = m.registers := rfl

@[simp] theorem pointer_send (bytes : List UInt8) (m : Machine) :
    (send bytes m).pointer = m.pointer := rfl

def writeByte (byte : UInt8) (m : Machine) : Machine := send [byte] m

def writeText (text : String) (m : Machine) : Machine :=
  send (text.toList.flatMap String.utf8EncodeChar) m

end Segmentation.Serial
