import Segmentation.Table.Kernel
import Segmentation.Table.Load

/-! Programs that keep any number of tables and load them through any number of loaders. Tables are
numbered in the order in which they were made, and the number of a table is its address. -/

namespace Segmentation

structure Workspace (σ : Type) where
  tables : List Table
  world : σ

inductive Operation where
  | create (capacity : Capacity)
  | adopt (capacity : Capacity) (entries : List Descriptor)
  | createKernel (capacity : Capacity) (mode : Mode)
  | push (table : Nat) (d : Descriptor)
  | set (table index : Nat) (d : Descriptor)
  | load (table loader : Nat) (code data : Selector)
  | install (table loader : Nat)
  deriving DecidableEq

inductive Answer where
  | done
  | index (index : UInt16)
  | segments (s : ActiveSegments)
  | refused (e : SegmentError)
  | noTable
  deriving DecidableEq

namespace Workspace

variable {σ : Type}

def empty (world : σ) : Workspace σ := ⟨[], world⟩

def nextBase (s : Workspace σ) : Address := .table s.tables.length

def add (s : Workspace σ) (t : Table) : Workspace σ := { s with tables := s.tables ++ [t] }

def onTable (s : Workspace σ) (k : Nat) (x : TableM σ α) (answer : α → Answer) :
    Answer × Workspace σ :=
  match s.tables[k]? with
  | none => (.noTable, s)
  | some t =>
    match x (t, s.world) with
    | .ok a (t, w) => (answer a, ⟨s.tables.set k t, w⟩)
    | .error e (t, w) => (.refused e, ⟨s.tables.set k t, w⟩)

variable [Journal σ] (loaders : Nat → Loader σ)

def perform (s : Workspace σ) : Operation → Answer × Workspace σ
  | .create capacity => (.done, s.add (.new capacity s.nextBase))
  | .adopt capacity entries =>
    match Table.ofEntries capacity s.nextBase entries with
    | .ok t => (.done, s.add t)
    | .error e => (.refused e, s)
  | .createKernel capacity mode =>
    match Table.kernel capacity s.nextBase mode s.world with
    | .ok t w => (.done, { s.add t with world := w })
    | .error e w => (.refused e, { s with world := w })
  | .push k d => s.onTable k (Table.push d) .index
  | .set k index d => s.onTable k (Table.set index d) fun _ => .done
  | .load k loader code data => s.onTable k (Table.load (loaders loader) code data) .segments
  | .install k loader => s.onTable k (Table.install (loaders loader)) .segments

def run (s : Workspace σ) (operations : List Operation) : Workspace σ :=
  operations.foldl (fun s op => (s.perform loaders op).2) s

end Workspace

end Segmentation
