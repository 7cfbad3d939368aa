import Segmentation.Kernel.Console
import Segmentation.Proofs.Machine
import Segmentation.Proofs.Table.ReadBack

namespace Segmentation

/-- Where a world keeps a machine. The log may send bytes over the line of that machine, but it
leaves the rest of it alone. -/
structure Machine.Place (σ : Type) [Journal σ] where
  get : σ → Machine
  put : Machine → σ → σ
  get_put : ∀ m w, get (put m w) = m
  bare_log : ∀ r w, (get (Journal.log r w)).bare = (get w).bare

structure Machine.Agree (m m' : Machine) : Prop where
  code : m.registers .cs = m'.registers .cs
  data : m.registers .ds = m'.registers .ds
  pointer : m.pointer = m'.pointer
  stuck_code : m.stuck (.register .cs) = m'.stuck (.register .cs)
  stuck_data : m.stuck (.register .ds) = m'.stuck (.register .ds)
  stuck_base : m.stuck .tableBase = m'.stuck .tableBase
  stuck_limit : m.stuck .tableLimit = m'.stuck .tableLimit

theorem Machine.Agree.reads_load {m m' : Machine} (h : m.Agree m') (s : ActiveSegments) :
    (m.load s).reads = (m'.load s).reads := by
  have code : (m.load s).registers .cs = (m'.load s).registers .cs := by
    rw [registers_load, registers_load, h.stuck_code, h.code]
  have data : (m.load s).registers .ds = (m'.load s).registers .ds := by
    rw [registers_load, registers_load, h.stuck_data, h.data]
  have pointer : (m.load s).pointer = (m'.load s).pointer := by
    rw [pointer_load, pointer_load, h.stuck_base, h.stuck_limit, h.pointer]
  rw [reads, code, data, pointer]
  rfl

theorem Serial.bare_writeText (text : String) (m : Machine) :
    (Serial.writeText text m).bare = m.bare := Machine.bare_send m _

def Console.place : Machine.Place Console where
  get := machine
  put m c := { c with machine := m }
  get_put _ _ := rfl
  bare_log r c := by
    change (if c.logger.maxLevel.admits r.level then c.write r else c).machine.bare = _
    rw [write]
    split
    · split
      · exact Serial.bare_writeText r.line c.machine
      · rfl
    · rfl

variable {σ : Type} [Journal σ]

namespace Machine.Place

def processor (place : Place σ) : Loader σ := Machine.processor.within place.get place.put

section Install

variable (place : Place σ) (s : ActiveSegments) (t : Table) (w : σ)

theorem bare_announced : (place.get (t.announced w)).bare = (place.get w).bare :=
  (place.bare_log (.drawn t) _).trans (place.bare_log (.loading t) w)

theorem bare_handTo :
    (place.get (s.handTo place.processor w)).bare = ((place.get w).load s).bare := by
  have loaded : place.get (place.processor.reloadSegments s.code s.data
      (place.processor.loadTable s.table w)) = (place.get w).load s := by
    simp only [processor, Loader.within, place.get_put]
    rfl
  rw [ActiveSegments.handTo, place.bare_log, loaded]

theorem fst_active : (place.processor.active w).1 = (place.get w).reads := by
  change (place.get w).active.1 = _
  rw [active_eq]

theorem bare_readBack :
    (place.get (ActiveSegments.readBack place.processor w)).bare = (place.get w).bare := by
  have emitted : place.get (place.processor.active w).2 = (place.get w).emit readEvents := by
    change place.get (place.put (place.get w).active.2 w) = _
    rw [place.get_put, active_eq]
  rw [ActiveSegments.readBack, place.bare_log, emitted, bare_emit]

theorem bare_handed :
    (place.get (t.handed place.processor w)).bare =
      ((place.get w).load t.kernelSegments).bare := by
  rw [Table.handed, bare_handTo, bare_load_congr (place.bare_announced t w)]

theorem reported_eq :
    t.reported place.processor w = ((place.get w).load t.kernelSegments).reads := by
  rw [Table.reported, fst_active, reads_eq_of_bare (place.bare_handed t w)]

end Install

def install (place : Place σ) (k : Nat) (s : Table × σ) : Answer × Table × σ :=
  (Action.install k).perform (fun _ => place.processor) s

variable {place : Place σ} {t : Table} {w : σ} {k : Nat}

theorem install_segments_iff (h : t.accept .kernelCode .kernelData = .ok t.kernelSegments)
    (a : ActiveSegments) :
    (place.install k (t, w)).1 = .segments a ↔
      ((place.get w).load t.kernelSegments).reads = t.kernelSegments ∧ a = t.kernelSegments := by
  rw [← reported_eq]
  by_cases taken : t.reported place.processor w = t.kernelSegments
  · rw [install, Action.perform_install_taken h taken]
    simp [taken, eq_comm]
  · obtain ⟨e, mismatch⟩ := ActiveSegments.exists_error_of_ne taken
    rw [install, Action.perform_install_mismatched h mismatch]
    simp [taken]

theorem bare_install (h : t.accept .kernelCode .kernelData = .ok t.kernelSegments) :
    (place.get (place.install k (t, w)).2.2).bare =
      ((place.get w).load t.kernelSegments).bare := by
  by_cases taken : t.reported place.processor w = t.kernelSegments
  · rw [install, Action.perform_install_taken h taken, place.bare_log, bare_readBack, bare_handed]
  · obtain ⟨e, mismatch⟩ := ActiveSegments.exists_error_of_ne taken
    rw [install, Action.perform_install_mismatched h mismatch, bare_readBack, bare_handed]

theorem install_eq_of_agree {w' : σ} (agree : (place.get w).Agree (place.get w')) :
    (place.install k (t, w)).1 = (place.install k (t, w')).1 := by
  rcases t.accept_kernel_cases with ⟨e, refused⟩ | accepted
  · rw [install, install, Action.perform_install_refused _ w k refused,
      Action.perform_install_refused _ w' k refused]
  · have reported : t.reported place.processor w = t.reported place.processor w' := by
      rw [reported_eq, reported_eq, agree.reads_load]
    cases checked : t.kernelSegments.check (t.reported place.processor w) with
    | ok _ =>
      have taken := ActiveSegments.check_eq_ok_iff.mp checked
      rw [install, install, Action.perform_install_taken accepted taken,
        Action.perform_install_taken accepted (reported ▸ taken)]
    | error e =>
      rw [install, install, Action.perform_install_mismatched accepted checked,
        Action.perform_install_mismatched accepted (reported ▸ checked)]

end Machine.Place

structure Settles (t : Table) (m m' : Machine) (answer : Answer) : Prop where
  code : m.stuck (.register .cs) = false → m'.registers .cs = ⟨0x08⟩
  data : ∀ r, r ≠ .cs → m.stuck (.register r) = false → m'.registers r = ⟨0x10⟩
  base : m.stuck .tableBase = false → m'.pointer.base = t.pointer.base
  limit : m.stuck .tableLimit = false → m'.pointer.limit = t.pointer.limit
  register_stuck : ∀ r, m.stuck (.register r) = true → m'.registers r = m.registers r
  base_stuck : m.stuck .tableBase = true → m'.pointer.base = m.pointer.base
  limit_stuck : m.stuck .tableLimit = true → m'.pointer.limit = m.pointer.limit
  segments_iff : ∀ a, answer = .segments a ↔
    (m'.registers .cs = ⟨0x08⟩ ∧ m'.registers .ds = ⟨0x10⟩ ∧ m'.pointer = t.pointer) ∧
      a = ⟨⟨0x08⟩, ⟨0x10⟩, t.pointer⟩

theorem settles_of_bare {t : Table} {m m' : Machine} {answer : Answer}
    (bare : m'.bare = (m.load t.kernelSegments).bare)
    (segments_iff : ∀ a, answer = .segments a ↔
      (m.load t.kernelSegments).reads = t.kernelSegments ∧ a = t.kernelSegments) :
    Settles t m m' answer := by
  have registers (r : Register) : m'.registers r =
      if m.stuck (.register r) then m.registers r else t.kernelSegments.selector r :=
    (congrFun (congrArg Machine.registers bare) r).trans (m.registers_load _ r)
  have pointer : m'.pointer = _ :=
    (congrArg Machine.pointer bare).trans (m.pointer_load t.kernelSegments)
  have reads : m'.reads = (m.load t.kernelSegments).reads := Machine.reads_eq_of_bare bare
  constructor
  · intro takes
    rw [registers, takes]
    rfl
  · intro r other takes
    rw [registers, takes]
    cases r with
    | cs => exact absurd rfl other
    | _ => rfl
  · intro takes
    rw [pointer, takes]
    rfl
  · intro takes
    rw [pointer, takes]
    rfl
  · intro r stuck
    rw [registers, if_pos stuck]
  · intro stuck
    rw [pointer, stuck]
    rfl
  · intro stuck
    rw [pointer, stuck]
    rfl
  · intro a
    rw [segments_iff, ← reads, Machine.reads, Table.kernelSegments, ActiveSegments.mk.injEq]
    rfl

theorem Settles.passed {t : Table} {m m' : Machine} {answer : Answer} (h : Settles t m m' answer)
    (code : m.stuck (.register .cs) = false) (data : m.stuck (.register .ds) = false)
    (base : m.stuck .tableBase = false) (limit : m.stuck .tableLimit = false) :
    answer = .segments ⟨⟨0x08⟩, ⟨0x10⟩, t.pointer⟩ := by
  have pointer : m'.pointer = t.pointer := congrArg₂ TablePointer.mk (h.base base) (h.limit limit)
  exact (h.segments_iff _).mpr ⟨⟨h.code code, h.data .ds nofun data, pointer⟩, rfl⟩

/-- Installations of a table with the processor of a machine. Whether the software lets one pass is
told by what the load alone would answer. -/
structure ReadsRegisters (place : Machine.Place σ) (t : Table) (k : Nat) : Prop where
  settles : ∀ w,
    (∀ e, ((Action.load k .kernelCode .kernelData).perform (fun _ => place.processor)
      (t, w)).1 ≠ .refused e) →
    Settles t (place.get w) (place.get (place.install k (t, w)).2.2) (place.install k (t, w)).1
  same : ∀ w w', (place.get w).Agree (place.get w') →
    (place.install k (t, w)).1 = (place.install k (t, w')).1

theorem install_readsRegisters (place : Machine.Place σ) (t : Table) (k : Nat) :
    ReadsRegisters place t k := by
  constructor
  · intro w passes
    rcases t.accept_kernel_cases with ⟨e, refused⟩ | accepted
    · exact absurd ((Action.load_refused_iff _ t w).mpr refused) (passes e)
    · exact settles_of_bare (Machine.Place.bare_install accepted)
        (Machine.Place.install_segments_iff accepted)
  · intro w w' agree
    exact Machine.Place.install_eq_of_agree agree

theorem install_readsRegisters_stuck :
    let n : Capacity := ⟨5, by decide, by decide⟩
    let t := Table.writeAll (Table.flatWrites .longMode) (.new n (.table 0))
    let console (part : Part) : Console :=
      ⟨{ Machine.idle with stuck := fun p => p = part }, ⟨true, Logger.filter⟩⟩
    let install (c : Console) := (Action.install 0).perform (fun _ => Console.processor) (t, c)
    (install (console (.register .ss))).1 = .segments ⟨⟨0x08⟩, ⟨0x10⟩, t.pointer⟩ ∧
      (install (console (.register .ss))).2.2.machine.registers .ss = ⟨0⟩ ∧
      ∀ a, (install (console .tableLimit)).1 ≠ .segments a := by
  intro n t console install
  have passes (c : Console) (e : SegmentError) :
      ((Action.load 0 .kernelCode .kernelData).perform (fun _ => Console.processor) (t, c)).1 ≠
        .refused e := by
    have accepted : t.accept .kernelCode .kernelData = .ok t.kernelSegments := by decide
    rw [(Action.load_segments_iff _ t c).mpr accepted]
    exact nofun
  have settles (c : Console) :
      Settles t c.machine (install c).2.2.machine (install c).1 :=
    (install_readsRegisters Console.place t 0).settles c (passes c)
  have stack := settles (console (.register .ss))
  have table := settles (console .tableLimit)
  refine ⟨stack.passed rfl rfl rfl rfl, stack.register_stuck .ss rfl, fun a passed => ?_⟩
  have pointer := ((table.segments_iff a).mp passed).1.2.2
  have limit : (0 : UInt16) = t.pointer.limit :=
    (table.limit_stuck rfl).symm.trans (congrArg TablePointer.limit pointer)
  exact absurd limit (by decide)

end Segmentation
