import Mathlib.Data.Nat.Find
import Segmentation.Proofs.Serial

/-! Text on a line whose status changes for ever. Each byte goes out right after the first status
that is ready. As long as one more of those always lies ahead, any text is sent to its end. -/

namespace Segmentation

/-- Bytes, the status values that are read to send them, and the events of both. -/
inductive Paced : (bytes values : List UInt8) → List Event → Prop
  | nil : Paced [] [] []
  | cons {byte ready : UInt8} {busy bytes values : List UInt8} {events : List Event}
      (waits : ∀ v ∈ busy, v &&& 0x20 = 0) (goes : ready &&& 0x20 ≠ 0)
      (rest : Paced bytes values events) :
      Paced (byte :: bytes) (busy ++ ready :: values)
        (busy.map (.input 0x3FD) ++ .input 0x3FD ready :: .output 0x3F8 byte :: events)

namespace Trace

def polled? : Event → Option UInt8
  | .input port value => if port = Serial.statusPort then some value else none
  | _ => none

def polled (events : List Event) : List UInt8 := events.filterMap polled?

@[simp] theorem polled_append (a b : List Event) : polled (a ++ b) = polled a ++ polled b :=
  List.filterMap_append

@[simp] theorem polled_inputs (values : List UInt8) :
    polled (values.map (.input 0x3FD)) = values := by
  induction values with
  | nil => rfl
  | cons v values ih => exact congrArg (v :: ·) ih

end Trace

namespace Serial

theorem await_busy {busy : List UInt8} (waits : ∀ v ∈ busy, v &&& 0x20 = 0) (later : List UInt8) :
    await (busy ++ later) = (busy.map (.input 0x3FD) ++ (await later).1, (await later).2) := by
  induction busy with
  | nil => rfl
  | cons v busy ih =>
    obtain ⟨hv, hbusy⟩ := List.forall_mem_cons.mp waits
    have waiting : isReady v = false := decide_eq_false (not_not_intro hv)
    rw [List.cons_append, await, waiting, if_neg Bool.false_ne_true, ih hbusy]
    rfl

theorem await_ready {ready : UInt8} (goes : ready &&& 0x20 ≠ 0) (later : List UInt8) :
    await (ready :: later) = ([.input 0x3FD ready], later) := by
  have going : isReady ready = true := decide_eq_true goes
  rw [await, going, if_pos rfl]
  rfl

end Serial

namespace Paced

variable {bytes values : List UInt8} {events : List Event}

theorem transmit (h : Paced bytes values events) (later : List UInt8) :
    Serial.transmit bytes (values ++ later) = (events, later) := by
  induction h with
  | nil => rfl
  | cons waits goes rest ih =>
    rw [Serial.transmit, List.append_assoc, Serial.await_busy waits, List.cons_append,
      Serial.await_ready goes]
    dsimp only
    rw [ih, List.append_assoc]
    rfl

theorem send (h : Paced bytes values events) (m : Machine) (later : List UInt8) :
    Serial.send bytes { m with status := values ++ later } =
      { m.emit events with status := later } := by
  rw [Serial.send, h.transmit]
  rfl

theorem sent (h : Paced bytes values events) : Trace.sent events = bytes := by
  have sends := Serial.sends_transmit bytes (values ++ [])
  rw [h.transmit] at sends
  exact sends.sent

theorem polled (h : Paced bytes values events) : Trace.polled events = values := by
  induction h with
  | nil => rfl
  | cons waits goes rest ih =>
    rw [Trace.polled_append, Trace.polled_inputs, ← ih]
    rfl

theorem ready_before (h : Paced bytes values events) {before after : List Event} {byte : UInt8}
    (split : events = before ++ .output 0x3F8 byte :: after) :
    ∃ earlier v, before = earlier ++ [.input 0x3FD v] ∧ v &&& 0x20 ≠ 0 := by
  induction h generalizing before with
  | nil => exact absurd split.symm (List.append_ne_nil_of_right_ne_nil _ (List.cons_ne_nil _ _))
  | @cons sentByte ready busy _ _ events _ goes _ ih =>
    have split : (busy ++ [ready]).map (.input 0x3FD) ++ .output 0x3F8 sentByte :: events =
        before ++ .output 0x3F8 byte :: after := by
      rw [← split, List.map_append, List.append_assoc]
      rfl
    have own : (busy ++ [ready]).map (Event.input 0x3FD) =
        busy.map (.input 0x3FD) ++ [.input 0x3FD ready] := List.map_append
    rcases List.append_eq_append_iff.mp split with ⟨extra, rfl, later⟩ | ⟨extra, hbefore, later⟩
    · rcases List.cons_eq_append_iff.mp later with ⟨rfl, -⟩ | ⟨extra', rfl, split'⟩
      · exact ⟨_, ready, by rw [List.append_nil, own], goes⟩
      · obtain ⟨earlier, v, rfl, hv⟩ := ih split'
        exact ⟨_, v, (List.append_assoc _ (_ :: earlier) [_]).symm, hv⟩
    · cases extra with
      | nil => exact ⟨_, ready, by rw [← own, hbefore, List.append_nil], goes⟩
      | cons e extra =>
        -- A byte would stand among the values that are read before it.
        obtain ⟨rfl, -⟩ := List.cons.inj later
        have mem : Event.output 0x3F8 byte ∈ (busy ++ [ready]).map (Event.input 0x3FD) := by
          rw [hbefore]
          exact List.mem_append_right _ List.mem_cons_self
        obtain ⟨v, -, hv⟩ := List.mem_map.mp mem
        cases hv

end Paced

section Stream

variable {line : Nat → UInt8}

def stretch (line : Nat → UInt8) (start count : Nat) : List UInt8 :=
  (List.range' start count).map line

theorem stretch_add (line : Nat → UInt8) (start a b : Nat) :
    stretch line start (a + b) = stretch line start a ++ stretch line (start + a) b := by
  rw [stretch, ← List.range'_append_1, List.map_append]
  rfl

theorem stretch_succ (line : Nat → UInt8) (start count : Nat) :
    stretch line start (count + 1) = line start :: stretch line (start + 1) count := rfl

theorem exists_ready (ahead : ∀ n, ∃ k, n ≤ k ∧ line k &&& 0x20 ≠ 0) (start : Nat) :
    ∃ count, (∀ v ∈ stretch line start count, v &&& 0x20 = 0) ∧
      line (start + count) &&& 0x20 ≠ 0 := by
  have later : ∃ count, line (start + count) &&& 0x20 ≠ 0 := by
    obtain ⟨k, le, hk⟩ := ahead start
    exact ⟨k - start, by rwa [Nat.add_sub_cancel' le]⟩
  refine ⟨Nat.find later, fun v mem => ?_, Nat.find_spec later⟩
  obtain ⟨k, hk, rfl⟩ := List.mem_map.mp mem
  obtain ⟨le, lt⟩ := List.mem_range'_1.mp hk
  have first := Nat.find_min later (m := k - start) (by omega)
  rwa [Nat.add_sub_cancel' le, not_not] at first

theorem exists_paced (ahead : ∀ n, ∃ k, n ≤ k ∧ line k &&& 0x20 ≠ 0) (bytes : List UInt8)
    (start : Nat) : ∃ count events, Paced bytes (stretch line start count) events := by
  induction bytes generalizing start with
  | nil => exact ⟨0, [], .nil⟩
  | cons byte bytes ih =>
    obtain ⟨waiting, waits, goes⟩ := exists_ready ahead start
    obtain ⟨count, events, rest⟩ := ih (start + waiting + 1)
    have paced := @Paced.cons byte _ _ _ _ _ waits goes rest
    rw [← stretch_succ, ← stretch_add] at paced
    exact ⟨_, _, paced⟩

end Stream

theorem utf8_append (a b : String) : utf8 (a ++ b) = utf8 a ++ utf8 b := by
  simp [utf8, String.toByteArray_append, ByteArray.data_append]

theorem Serial.writeText_join (parts : List String) (m : Machine) :
    parts.foldl (fun m part => writeText part m) m = send (utf8 (String.join parts)) m := by
  induction parts generalizing m with
  | nil => exact (send_nil m).symm
  | cons part parts ih =>
    rw [List.foldl_cons, ih, writeText_eq, ← send_append, ← utf8_append, String.join_cons]

/-- What becomes of a text on a line with this status. It is sent once `count` values are read, and
neither the values after them nor the parts in which the text comes make a difference. -/
structure Delivers (line : Nat → UInt8) (text : String) (count : Nat) (events : List Event) :
    Prop where
  paced : Paced (utf8 text) (stretch line 0 count) events
  sent : Trace.sent events = utf8 text
  polled : Trace.polled events = stretch line 0 count
  ready_before : ∀ before byte after, events = before ++ .output 0x3F8 byte :: after →
    ∃ earlier v, before = earlier ++ [.input 0x3FD v] ∧ v &&& 0x20 ≠ 0
  written : ∀ (m : Machine) later,
    Serial.writeText text { m with status := stretch line 0 (count + later) } =
      { m.emit events with status := stretch line count later }
  written_in_parts : ∀ (m : Machine) later parts, String.join parts = text →
    parts.foldl (fun m part => Serial.writeText part m)
        { m with status := stretch line 0 (count + later) } =
      { m.emit events with status := stretch line count later }

theorem writeText_delivers {line : Nat → UInt8} (ahead : ∀ n, ∃ k, n ≤ k ∧ line k &&& 0x20 ≠ 0)
    (text : String) : ∃ count events, Delivers line text count events := by
  obtain ⟨count, events, paced⟩ := exists_paced ahead (utf8 text) 0
  have sends (m : Machine) (later : Nat) :
      Serial.send (utf8 text) { m with status := stretch line 0 (count + later) } =
        { m.emit events with status := stretch line count later } := by
    rw [stretch_add, Nat.zero_add]
    exact paced.send m _
  refine ⟨count, events, paced, paced.sent, paced.polled, ?_, ?_, ?_⟩
  · intro before byte after split
    exact paced.ready_before split
  · intro m later
    rw [Serial.writeText_eq, sends]
  · rintro m later parts rfl
    rw [Serial.writeText_join, sends]

theorem writeText_delivers_third :
    let line : Nat → UInt8 := fun n => if n % 3 = 2 then 0x60 else 0x1F
    (∀ n, ∃ k, n ≤ k ∧ line k &&& 0x20 ≠ 0) ∧ ∃ count events, Delivers line "é\n" count events := by
  intro line
  have ahead (n : Nat) : ∃ k, n ≤ k ∧ line k &&& 0x20 ≠ 0 := by
    refine ⟨3 * n + 2, by omega, ?_⟩
    have ready : line (3 * n + 2) = 0x60 := if_pos (by omega)
    rw [ready]
    decide
  exact ⟨ahead, writeText_delivers ahead "é\n"⟩

end Segmentation
