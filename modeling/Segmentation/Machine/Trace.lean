import Segmentation.Serial

namespace Segmentation

def Event.text : Event → String
  | .disableInterrupts => "cli"
  | .halt => "hlt"
  | .output port value =>
    "out " ++ Numeral.hex port.toNat ++ " <- " ++ Numeral.fixedHex 2 value.toNat
  | .input port value =>
    "in " ++ Numeral.hex port.toNat ++ " -> " ++ Numeral.fixedHex 2 value.toNat
  | .loadPointer p => "lgdt base=" ++ p.base.hex ++ " limit=" ++ Numeral.hex p.limit.toNat
  | .storePointer => "sgdt"
  | .write r s => r.name ++ " <- " ++ s.hex
  | .read r => "read " ++ r.name

namespace Trace

def sent? : Event → Option UInt8
  | .output port value => if port = Serial.dataPort then some value else none
  | _ => none

/-- Bytes that are no UTF-8 text are shown by number. -/
def sentText (bytes : List UInt8) : String :=
  match String.fromUTF8? bytes.toByteArray with
  | some text => "tx " ++ text
  | none => "txhex " ++ String.ofList (bytes.flatMap (Numeral.fixedDigits 2 ·.toNat))

def flush (bytes : List UInt8) : List String :=
  if bytes.isEmpty then [] else [sentText bytes.reverse]

/-- `bytes` are those sent since the last other event, the newest first. -/
def linesAfter (bytes : List UInt8) : List Event → List String
  | [] => flush bytes
  | e :: es =>
    match sent? e with
    | some byte => linesAfter (byte :: bytes) es
    | none => flush bytes ++ e.text :: linesAfter [] es

def lines (trace : List Event) : List String := linesAfter [] trace

def unsent (trace : List Event) : List Event := trace.filter (sent? · |>.isNone)

def sent (trace : List Event) : List UInt8 := trace.filterMap sent?

@[simp] theorem sent_append (a b : List Event) : sent (a ++ b) = sent a ++ sent b :=
  List.filterMap_append

@[simp] theorem unsent_append (a b : List Event) : unsent (a ++ b) = unsent a ++ unsent b :=
  List.filter_append ..

end Trace

end Segmentation
