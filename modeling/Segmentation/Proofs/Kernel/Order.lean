import Segmentation.Proofs.Kernel.History

namespace Segmentation

def Trace.effects (events : List Event) : List Event := events.filter (!·.isTraffic)

@[simp] theorem Trace.effects_append (a b : List Event) :
    effects (a ++ b) = effects a ++ effects b :=
  List.filter_append ..

def Logging (events : List Event) : Prop :=
  ∃ records : List Record, Sends (records.flatMap Record.bytes) events

namespace Logging

variable {events : List Event}

theorem effects_eq (h : Logging events) : Trace.effects events = [] := by
  obtain ⟨records, sends⟩ := h
  refine List.filter_eq_nil_iff.mpr fun e he => ?_
  simp [sends.traffic e he]

theorem write_not_mem (h : Logging events) (r : Register) (s : Selector) :
    .write r s ∉ events := by
  obtain ⟨records, sends⟩ := h
  exact fun hmem => absurd (sends.traffic _ hmem) nofun

end Logging

namespace Kernel

/-- What a boot past the logger does to its machine. No instruction among these, and none that a
machine has, would enable interrupts again. -/
def effects : List Event :=
  [.disableInterrupts, .output 0x3F9 0x00, .output 0x3FB 0x03, .output 0x3FC 0x03,
    .loadPointer ⟨.table 0, 39⟩, .write .cs ⟨0x08⟩, .write .ss ⟨0x10⟩, .write .ds ⟨0x10⟩,
    .write .es ⟨0x10⟩, .write .fs ⟨0x10⟩, .write .gs ⟨0x10⟩, .storePointer, .read .cs, .read .ds]

structure Ordered (events : List Event) : Prop where
  effects : Trace.effects events = Kernel.effects
  parts : ∃ before between after, Logging before ∧ Logging between ∧ Logging after ∧
    events = setup ++ before ++ Machine.loadEvents segments ++ between ++
      Machine.readEvents ++ after
  setup_first : setup <+: events
  load_first : ∃ before after, events = before ++ .loadPointer segments.table :: after ∧
    ∀ r s, .write r s ∉ before

theorem Ordered.of_parts {before between after : List Event} (hbefore : Logging before)
    (hbetween : Logging between) (hafter : Logging after) :
    Ordered (setup ++ before ++ Machine.loadEvents segments ++ between ++ Machine.readEvents ++
      after) where
  effects := by
    simp only [Trace.effects_append, hbefore.effects_eq, hbetween.effects_eq, hafter.effects_eq,
      List.append_nil]
    rfl
  parts := ⟨before, between, after, hbefore, hbetween, hafter, rfl⟩
  setup_first := by simp only [List.append_assoc, List.prefix_append]
  load_first := by
    refine ⟨setup ++ before, (Machine.loadEvents segments).tail ++ between ++
      Machine.readEvents ++ after, ?_, fun r s hmem => ?_⟩
    · simp only [List.append_assoc]
      rfl
    · rcases List.mem_append.mp hmem with hsetup | hlogged
      · simp [setup] at hsetup
      · exact hbefore.write_not_mem r s hlogged

theorem ordered_checked (m : Machine) (records : List Record) :
    ∃ events, ((checked m).tell records).trace = m.trace ++ events ∧ Ordered events := by
  obtain ⟨before, hopened, sendsBefore⟩ := Machine.trace_tell opening (m.emit setup)
  obtain ⟨between, hloaded, sendsBetween⟩ :=
    Machine.trace_tell [.loaded segments] ((opened m).load segments)
  obtain ⟨after, hchecked, sendsAfter⟩ :=
    Machine.trace_tell (.observed (loaded m).reads :: records)
      ((loaded m).emit Machine.readEvents)
  -- What is told of the reading back and all that follows goes out in one stretch.
  have htell : (checked m).tell records =
      ((loaded m).emit Machine.readEvents).tell (.observed (loaded m).reads :: records) :=
    Machine.tell_tell [.observed (loaded m).reads] records _
  refine ⟨_, ?_, .of_parts ⟨opening, sendsBefore⟩ ⟨_, sendsBetween⟩ ⟨_, sendsAfter⟩⟩
  rw [htell, hchecked, Machine.trace_emit, loaded, hloaded, Machine.trace_load, opened, hopened,
    Machine.trace_emit]
  simp only [List.append_assoc]

end Kernel

namespace Host

theorem run_boot_ordered (m : Machine) (history : List Command)
    (past : ((start m).run history).boot.1 ≠ .failed .loggerInstalled) :
    ∃ table events, ((start m).run history).boot.2.kernel.table = some table ∧
      table.pointer = Kernel.segments.table ∧
      ((start m).run history).boot.2.machine.trace =
        ((start m).run history).machine.trace ++ events ∧
      Kernel.Ordered events := by
  have kept := kept_run m history
  cases hany : history.any Command.installs with
  | true =>
    rw [hany] at kept
    exact absurd kept.laterBoot.reply past
  | false =>
    rw [hany] at kept
    obtain ⟨-, records, segments, hboot⟩ := boot_passed kept
    obtain ⟨table, htable, hpointer⟩ := kept.firstBoot.table
    obtain ⟨events, htrace, ordered⟩ :=
      Kernel.ordered_checked ((start m).run history).machine records
    refine ⟨table, events, htable, hpointer, ?_, ordered⟩
    rw [hboot, machine_passed, htrace]

def deaf : Machine := { Machine.idle with stuck := (· = .register .cs), status := [0x00, 0x20] }

theorem boot_deaf :
    ((start .idle).run [.writeByte 0x41, .replace deaf]).boot.1 =
      .failed (.segments (.selectorMismatch "CS" ⟨0x08⟩ ⟨0x00⟩)) := by
  have hreads : (Kernel.loaded deaf).reads = ⟨⟨0x00⟩, ⟨0x10⟩, ⟨.table 0, 39⟩⟩ :=
    Machine.reads_eq_of_bare (Kernel.bare_loaded deaf)
  have hcheck : Kernel.segments.check (Kernel.loaded deaf).reads =
      .error (.selectorMismatch "CS" ⟨0x08⟩ ⟨0x00⟩) := by
    rw [hreads]
    rfl
  exact congrArg Prod.fst (boot_mismatched (kept_run .idle [.writeByte 0x41, .replace deaf]) hcheck)

theorem run_boot_ordered_deaf :
    ((start .idle).run [.writeByte 0x41, .replace deaf]).boot.1 ≠ .failed .loggerInstalled ∧
    ∃ table events,
      ((start .idle).run [.writeByte 0x41, .replace deaf]).boot.2.kernel.table = some table ∧
      table.pointer = Kernel.segments.table ∧
      ((start .idle).run [.writeByte 0x41, .replace deaf]).boot.2.machine.trace =
        ((start .idle).run [.writeByte 0x41, .replace deaf]).machine.trace ++ events ∧
      Kernel.Ordered events := by
  have past : ((start .idle).run [.writeByte 0x41, .replace deaf]).boot.1 ≠
      .failed .loggerInstalled := by
    rw [boot_deaf]
    exact nofun
  exact ⟨past, run_boot_ordered .idle [.writeByte 0x41, .replace deaf] past⟩

end Host

end Segmentation
