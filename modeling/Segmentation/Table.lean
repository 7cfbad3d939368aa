import Segmentation.Descriptor
import Segmentation.Journal
import Segmentation.SegmentError

/-! Descriptor tables: a fixed number of slots, of which the processor sees those up to the last one
written. The first slot is null and stays so. -/

namespace Segmentation

/-- The limit of a table pointer has 16 bits, so that 8192 descriptors are the most it covers. -/
structure Capacity where
  slots : Nat
  pos : 0 < slots
  le_max : slots ≤ 8192
  deriving DecidableEq

def Capacity.ofNat? (n : Nat) : Option Capacity :=
  if h : 0 < n ∧ n ≤ 8192 then some ⟨n, h.1, h.2⟩ else none

structure Table where
  base : Address
  slots : Array Descriptor
  len : Nat
  loaded : Bool
  deriving DecidableEq

namespace Table

/-- Where a table is in its life. A table counts as loaded until it is written again. -/
inductive Stage where
  | uninitialized | populated | loaded
  deriving DecidableEq

def Stage.name : Stage → String
  | .uninitialized => "Uninitialized"
  | .populated => "Populated"
  | .loaded => "Loaded"

def new (capacity : Capacity) (base : Address) : Table where
  base := base
  slots := Array.replicate capacity.slots .null
  len := 1
  loaded := false

def ofEntries (capacity : Capacity) (base : Address) (entries : List Descriptor) :
    Except SegmentError Table :=
  match entries with
  | [] => .error .missingNullDescriptor
  | first :: _ =>
    if !first.isNull then .error .missingNullDescriptor
    else if capacity.slots < entries.length then .error (.tableFull capacity.slots)
    else .ok
      { base := base
        slots := entries.toArray ++ Array.replicate (capacity.slots - entries.length) .null
        len := entries.length
        loaded := false }

def capacity (t : Table) : Nat := t.slots.size

def entries (t : Table) : List Descriptor := t.slots.toList.take t.len

def get? (t : Table) (index : Nat) : Option Descriptor :=
  if index < t.len then t.slots[index]? else none

def isEmpty (t : Table) : Bool := t.len = 0

def stage (t : Table) : Stage :=
  if t.loaded then .loaded else if 1 < t.len then .populated else .uninitialized

def pointer (t : Table) : TablePointer := ⟨t.base, (t.len * Descriptor.size - 1).toUInt16⟩

def text (t : Table) : String :=
  "Gdt (" ++ Numeral.decimal t.len ++ "/" ++ Numeral.decimal t.capacity ++ " entries, " ++
    t.stage.name ++ ") [\n" ++
    String.join (t.entries.mapIdx fun k d => "  " ++ Numeral.decimal k ++ ": " ++ d.text ++ "\n") ++
    "]"

def debug (t : Table) (o : Outline) : String :=
  o.record "Gdt"
    [("entries", o.list (t.entries.map (·.debug o))), ("capacity", Numeral.decimal t.capacity),
      ("state", t.stage.name)]

/-- Puts a descriptor into a slot. A slot past the end becomes the last one. -/
def write (t : Table) (index : Nat) (d : Descriptor) : Table :=
  { t with slots := t.slots.setIfInBounds index d, len := max t.len (index + 1), loaded := false }

@[simp] theorem capacity_new (n : Capacity) (base : Address) :
    (new n base).capacity = n.slots := by
  simp [new, capacity]

@[simp] theorem capacity_write (t : Table) (index : Nat) (d : Descriptor) :
    (t.write index d).capacity = t.capacity := by
  simp [write, capacity]

theorem getElem?_entries (t : Table) (index : Nat) : t.entries[index]? = t.get? index := by
  simp [entries, get?, List.getElem?_take]

theorem length_entries (t : Table) (h : t.len ≤ t.capacity) : t.entries.length = t.len := by
  simp only [entries, List.length_take, Array.length_toList]
  exact Nat.min_eq_left h

theorem get?_write_self (t : Table) (index : Nat) (d : Descriptor) (h : index < t.capacity) :
    (t.write index d).get? index = some d := by
  have : index < max t.len (index + 1) := by omega
  simpa [write, get?, this, Array.getElem?_setIfInBounds, capacity] using h

theorem get?_write_of_ne (t : Table) (index k : Nat) (d : Descriptor) (hk : k < t.len)
    (h : k ≠ index) : (t.write index d).get? k = t.get? k := by
  have : k < max t.len (index + 1) := by omega
  simp [write, get?, this, hk, Ne.symm h]

end Table

def Record.written (index : Nat) (d : Descriptor) : Record where
  level := .debug
  target := "ringos::gdt::table"
  message := "gdt[" ++ Numeral.decimal index ++ "] = " ++ d.text

/-- Steps that change a table and the world around it. What a step did before it fails stays. -/
abbrev TableM (σ : Type) := EStateM SegmentError (Table × σ)

namespace Table

variable {σ : Type} [Journal σ]

def set (index : Nat) (d : Descriptor) : TableM σ Unit := fun (t, w) =>
  if index = 0 then .error .nullSlotReserved (t, w)
  else if t.capacity ≤ index then .error (.indexOutOfRange index t.capacity) (t, w)
  else .ok () (t.write index d, Journal.log (.written index d) w)

theorem set_ok (t : Table) (w : σ) (index : Nat) (d : Descriptor) (h₀ : index ≠ 0)
    (h : index < t.capacity) :
    set index d (t, w) = .ok () (t.write index d, Journal.log (.written index d) w) := by
  simp [set, h₀, Nat.not_le.2 h]

def push (d : Descriptor) : TableM σ UInt16 := fun (t, w) =>
  if t.capacity ≤ t.len then .error (.tableFull t.capacity) (t, w)
  else (do set t.len d; return t.len.toUInt16) (t, w)

theorem push_full (t : Table) (w : σ) (d : Descriptor) (h : t.capacity ≤ t.len) :
    push d (t, w) = .error (.tableFull t.capacity) (t, w) := by
  simp [push, h]

theorem push_ok (t : Table) (w : σ) (d : Descriptor) (h₀ : t.len ≠ 0) (h : t.len < t.capacity) :
    push d (t, w) =
      .ok t.len.toUInt16 (t.write t.len d, Journal.log (.written t.len d) w) := by
  simp only [push, Nat.not_le.2 h, if_false]
  show EStateM.bind _ _ _ = _
  rw [EStateM.bind, set_ok t w t.len d h₀ h]
  rfl

end Table

end Segmentation
