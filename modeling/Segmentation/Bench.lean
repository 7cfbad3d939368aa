import Segmentation.Loader.Recorder
import Segmentation.Machine.Processor

namespace Segmentation

structure Seat where
  recorder : Recorder
  isProcessor : Bool
  loads : Nat
  reloads : Nat

def Seat.blank : Seat := ⟨.blank, false, 0, 0⟩

structure Bench where
  seats : List Seat
  machine : Machine
  records : Array Record

namespace Bench

def empty (loaders : Nat) : Bench where
  seats := List.replicate loaders .blank
  machine := .idle
  records := #[]

instance : Journal Bench where
  log r b := { b with records := Journal.log r b.records }

def seat (k : Nat) (b : Bench) : Seat := b.seats.getD k .blank

def mapSeat (k : Nat) (f : Seat → Seat) (b : Bench) : Bench :=
  { b with seats := b.seats.modify k f }

def recorder (k : Nat) : Loader Bench :=
  Recorder.loader.within (fun b => (b.seat k).recorder)
    fun r => mapSeat k fun seat => { seat with recorder := r }

def processor : Loader Bench := Machine.processor.within machine fun m b => { b with machine := m }

def part (k : Nat) (b : Bench) : Loader Bench :=
  if (b.seat k).isProcessor then processor else recorder k

def loader (k : Nat) : Loader Bench where
  loadTable p b := ((part k b).loadTable p b).mapSeat k fun s => { s with loads := s.loads + 1 }
  reloadSegments code data b :=
    ((part k b).reloadSegments code data b).mapSeat k fun s => { s with reloads := s.reloads + 1 }
  active b := (part k b).active b

def force (k : Nat) (report : Report) : Bench → Bench :=
  mapSeat k fun seat => { seat with recorder.report := report }

def setProcessor (k : Nat) (m : Machine) (b : Bench) : Bench :=
  { b.mapSeat k fun seat => { seat with isProcessor := true } with machine := m }

def clear (b : Bench) : Bench := { b with records := #[], machine.trace := [] }

end Bench

end Segmentation
