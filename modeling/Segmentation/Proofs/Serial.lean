import Segmentation.Machine.Trace

namespace Segmentation

def utf8 (text : String) : List UInt8 := text.toUTF8.data.toList

def Event.isTraffic : Event → Bool
  | .output port _ => port = Serial.dataPort
  | .input port _ => port = Serial.statusPort
  | _ => false

structure Sends (bytes : List UInt8) (events : List Event) : Prop where
  traffic : ∀ e ∈ events, e.isTraffic = true
  sent : Trace.sent events = bytes

namespace Sends

variable {a b : List UInt8} {es fs : List Event}

theorem nil : Sends [] [] where
  traffic _ h := absurd h List.not_mem_nil
  sent := rfl

theorem append (h : Sends a es) (h' : Sends b fs) : Sends (a ++ b) (es ++ fs) where
  traffic := List.forall_mem_append.mpr ⟨h.traffic, h'.traffic⟩
  sent := by rw [Trace.sent_append, h.sent, h'.sent]

theorem status (value : UInt8) : Sends [] [.input Serial.statusPort value] where
  traffic := by simp [Event.isTraffic]
  sent := rfl

theorem byte (value : UInt8) : Sends [value] [.output Serial.dataPort value] where
  traffic := by simp [Event.isTraffic]
  sent := rfl

end Sends

namespace Serial

theorem sends_await (status : List UInt8) : Sends [] (await status).1 := by
  induction status with
  | nil => exact .nil
  | cons value later ih =>
    rw [await]
    split
    · exact .status value
    · exact (Sends.status value).append ih

theorem sends_transmit (bytes status : List UInt8) : Sends bytes (transmit bytes status).1 := by
  induction bytes generalizing status with
  | nil => exact .nil
  | cons byte bytes ih =>
    exact (sends_await status).append ((Sends.byte byte).append (ih (await status).2))

theorem transmit_append (a b status : List UInt8) :
    transmit (a ++ b) status =
      ((transmit a status).1 ++ (transmit b (transmit a status).2).1,
        (transmit b (transmit a status).2).2) := by
  induction a generalizing status with
  | nil => rfl
  | cons byte a ih =>
    simp only [List.cons_append, transmit, ih, List.append_assoc]

theorem send_append (a b : List UInt8) (m : Machine) : send (a ++ b) m = send b (send a m) := by
  simp only [send, Machine.emit, transmit_append, List.append_assoc]

theorem send_nil (m : Machine) : send [] m = m := by
  simp only [send, transmit, Machine.emit, List.append_nil]

theorem sent_send (bytes : List UInt8) (m : Machine) :
    Trace.sent (send bytes m).trace = Trace.sent m.trace ++ bytes := by
  rw [trace_send, Trace.sent_append, (sends_transmit bytes m.status).sent]

theorem sent_configure (m : Machine) :
    Trace.sent (configure m).trace = Trace.sent m.trace := by
  rw [configure, Machine.output, Machine.output, Machine.output, Machine.trace_emit,
    Machine.trace_emit, Machine.trace_emit, List.append_assoc, List.append_assoc,
    Trace.sent_append]
  exact List.append_nil _

theorem writeText_eq (text : String) (m : Machine) : writeText text m = send (utf8 text) m := by
  have hbytes : (text.toList.flatMap String.utf8EncodeChar).toByteArray = text.toUTF8 :=
    text.utf8Encode_toList
  rw [writeText, utf8, ← hbytes, List.data_toByteArray]

end Serial

end Segmentation
