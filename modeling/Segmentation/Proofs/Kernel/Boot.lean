import Segmentation.Kernel.Boot
import Segmentation.Proofs.Kernel.Console
import Segmentation.Proofs.Table.Action

/-! All that a boot can come to. With a logger already there it ends after the set-up of the serial
line. Otherwise the table is built and loaded, which nothing in software can refuse, and what is
read back decides. -/

namespace Segmentation

theorem bind_of_ok {ε σ α β : Type} {x : EStateM ε σ α} {s s' : σ} {a : α}
    (h : x s = .ok a s') (f : α → EStateM ε σ β) : (x >>= f) s = f a s' := by
  change EStateM.bind x f s = _
  rw [EStateM.bind, h]

theorem bind_of_error {ε σ α β : Type} {x : EStateM ε σ α} {s s' : σ} {e : ε}
    (h : x s = .error e s') (f : α → EStateM ε σ β) : (x >>= f) s = .error e s' := by
  change EStateM.bind x f s = _
  rw [EStateM.bind, h]

namespace Machine

def tell (records : List Record) (m : Machine) : Machine :=
  Serial.send (records.flatMap Record.bytes) m

@[simp] theorem bare_tell (records : List Record) (m : Machine) :
    (m.tell records).bare = m.bare := m.bare_send _

theorem tell_nil (m : Machine) : m.tell [] = m := Serial.send_nil m

theorem tell_tell (rs ss : List Record) (m : Machine) :
    (m.tell rs).tell ss = m.tell (rs ++ ss) := by
  rw [tell, tell, tell, List.flatMap_append, Serial.send_append]

theorem trace_tell (records : List Record) (m : Machine) :
    ∃ events, (m.tell records).trace = m.trace ++ events ∧
      Sends (records.flatMap Record.bytes) events :=
  ⟨_, rfl, Serial.sends_transmit _ m.status⟩

def observed (m : Machine) : Machine := (m.emit readEvents).tell [.observed m.reads]

def logged (m : Machine) : Console := ⟨m, .ofInstalled true⟩

end Machine

namespace Console

theorem log_logged {r : Record} (h : Logger.filter.admits r.level = true) (m : Machine) :
    Journal.log r m.logged = (m.tell [r]).logged := by
  have hlogger : m.logged.logger = .ofInstalled true := rfl
  have hbytes : admitted true r = [r].flatMap Record.bytes := by
    simp [admitted, h]
  rw [log_eq hlogger, hbytes]
  rfl

theorem logAll_logged {rs : List Record} (h : ∀ r ∈ rs, Logger.filter.admits r.level = true)
    (m : Machine) :
    Journal.logAll rs m.logged = (m.tell rs).logged := by
  induction rs generalizing m with
  | nil => exact congrArg Machine.logged (Serial.send_nil m).symm
  | cons r rs ih =>
    obtain ⟨hr, hrs⟩ := List.forall_mem_cons.mp h
    change Journal.logAll rs (Journal.log r _) = _
    rw [log_logged hr, ih hrs, Machine.tell_tell]
    rfl

theorem handTo_logged (s : ActiveSegments) (m : Machine) :
    s.handTo processor m.logged = ((m.load s).tell [.loaded s]).logged :=
  log_logged (r := .loaded s) rfl (m.load s)

theorem verify_logged (s : ActiveSegments) (m : Machine) :
    s.verify processor m.logged =
      match s.check m.reads with
      | .error e => .error e m.observed.logged
      | .ok () => .ok () (m.observed.tell [.verified]).logged := by
  have hreadBack : ActiveSegments.readBack processor m.logged = m.observed.logged := by
    have hactive : (processor.active m.logged).2 = (m.emit Machine.readEvents).logged := by
      change Machine.logged m.active.2 = _
      rw [Machine.active_eq]
    rw [ActiveSegments.readBack, hactive]
    exact log_logged (r := .observed m.reads) rfl (m.emit Machine.readEvents)
  have hreads : (processor.active m.logged).1 = m.reads := rfl
  have hverify := s.verify_eq processor m.logged
  rw [hreadBack, hreads, log_logged (r := .verified) rfl] at hverify
  exact hverify

theorem install_logged {t : Table} {s : ActiveSegments} {m m' : Machine}
    (accepted : t.accept .kernelCode .kernelData = .ok s)
    (h : ((m.tell [.loading t, .drawn t]).load s).tell [.loaded s] = m') :
    Table.install processor (t, m.logged) =
      match s.check m'.reads with
      | .error e => .error e (t.markLoaded, m'.observed.logged)
      | .ok () => .ok s (t.markLoaded, (m'.observed.tell [.verified]).logged) := by
  have hannounced : t.announced m.logged = (m.tell [.loading t, .drawn t]).logged := by
    rw [Table.announced, log_logged (r := .loading t) rfl, log_logged (r := .drawn t) rfl,
      Machine.tell_tell, List.singleton_append]
  rw [Table.install_accepted accepted, hannounced, handTo_logged, verify_logged, h]
  cases s.check m'.reads <;> rfl

end Console

namespace Kernel

def setup : List Event :=
  [.disableInterrupts, .output 0x3F9 0x00, .output 0x3FB 0x03, .output 0x3FC 0x03]

def segments : ActiveSegments := ⟨⟨0x08⟩, ⟨0x10⟩, ⟨.table 0, 39⟩⟩

def built : Table := Table.writeAll (Table.flatWrites mode) (.new capacity (.table 0))

theorem accept_built : built.accept .kernelCode .kernelData = .ok segments := rfl

def running : Record := ⟨.info, "ringos::kernel", "kernel running"⟩

def opening : List Record :=
  running :: Table.records (Table.flatWrites mode) ++ [.loading built, .drawn built]

def closing : List Record := [.verified, ⟨.info, "ringos::kernel", ready segments⟩]

section Stages

variable (m : Machine)

def opened : Machine := (m.emit setup).tell opening

def loaded : Machine := ((opened m).load segments).tell [.loaded segments]

def checked : Machine := (loaded m).observed

def finished : Machine := (checked m).tell closing

theorem bare_loaded : (loaded m).bare = (m.load segments).bare := by
  have hopened : (opened m).bare = m.bare := by
    rw [opened, Machine.bare_tell, Machine.bare_emit]
  rw [loaded, Machine.bare_tell, Machine.bare_load_congr hopened]

theorem bare_checked : (checked m).bare = (loaded m).bare := by
  rw [checked, Machine.observed, Machine.bare_tell, Machine.bare_emit]

end Stages

def bootLogger : BootM ActiveSegments := do
  installLogger
  modify (log .info "kernel running")
  let table ← sharedTable
  let segments ← installTable table
  modify (log .info (ready segments))
  return segments

theorem boot_eq (k : Kernel) : boot k = bootLogger (k.onMachine (·.emit setup)) := by
  have hsetup : (k.onMachine .disableInterrupts).onMachine Serial.configure =
      k.onMachine (·.emit setup) := by
    simp only [onMachine, Machine.disableInterrupts, Serial.configure, Machine.output, Machine.emit,
      List.append_assoc]
    rfl
  rw [← hsetup]
  rfl

theorem boot_logged (m : Machine) (table : Option Table) :
    boot ⟨m.logged, table⟩ = .error .loggerInstalled ⟨(m.emit setup).logged, table⟩ := by
  rw [boot_eq]
  rfl

theorem installLogger_absent (m : Machine) (table : Option Table) :
    installLogger ⟨⟨m, .ofInstalled false⟩, table⟩ = .ok () ⟨m.logged, table⟩ := rfl

theorem modify_log (message : String) (m : Machine) (table : Option Table) :
    (modify (log .info message) : BootM PUnit) ⟨m.logged, table⟩ =
      .ok ⟨⟩ ⟨(m.tell [⟨.info, "ringos::kernel", message⟩]).logged, table⟩ := by
  have hlog : Journal.log ⟨.info, "ringos::kernel", message⟩ m.logged =
      (m.tell [⟨.info, "ringos::kernel", message⟩]).logged :=
    Console.log_logged (r := ⟨.info, "ringos::kernel", message⟩) rfl m
  change EStateM.Result.ok _ (Kernel.mk (Journal.log _ m.logged) table) = _
  rw [hlog]

theorem sharedTable_none (m : Machine) :
    sharedTable ⟨m.logged, none⟩ =
      .ok built ⟨(m.tell (Table.records (Table.flatWrites mode))).logged, built⟩ := by
  have hroom : 5 ≤ capacity.slots := by decide
  have hlevels : ∀ r ∈ Table.records (Table.flatWrites mode),
      Logger.filter.admits r.level = true := by
    decide
  simp only [sharedTable, Table.kernel_of_le capacity (.table 0) mode _ hroom,
    Console.logAll_logged hlevels]
  rfl

theorem installTable_eq (t : Table) (c : Console) (table : Option Table) :
    installTable t ⟨c, table⟩ =
      match Table.install Console.processor (t, c) with
      | .ok s (t, c) => .ok s ⟨c, t⟩
      | .error e (t, c) => .error (.segments e) ⟨c, t⟩ := rfl

theorem installTable_built {m m' : Machine}
    (h : ((m.tell [.loading built, .drawn built]).load segments).tell [.loaded segments] = m')
    (table : Option Table) :
    installTable built ⟨m.logged, table⟩ =
      match segments.check m'.reads with
      | .error e => .error (.segments e) ⟨m'.observed.logged, built.markLoaded⟩
      | .ok () => .ok segments ⟨(m'.observed.tell [.verified]).logged, built.markLoaded⟩ := by
  rw [installTable_eq, Console.install_logged accept_built h]
  cases segments.check m'.reads <;> rfl

theorem boot_unstarted (m : Machine) :
    boot ⟨⟨m, .ofInstalled false⟩, none⟩ =
      match segments.check (loaded m).reads with
      | .error e => .error (.segments e) ⟨(checked m).logged, built.markLoaded⟩
      | .ok () => .ok segments ⟨(finished m).logged, built.markLoaded⟩ := by
  have hstart : (Kernel.mk ⟨m, .ofInstalled false⟩ none).onMachine (·.emit setup) =
      ⟨⟨m.emit setup, .ofInstalled false⟩, none⟩ := rfl
  have hloaded : (((((m.emit setup).tell [running]).tell
      (Table.records (Table.flatWrites mode))).tell [.loading built, .drawn built]).load
        segments).tell [.loaded segments] = loaded m := by
    rw [Machine.tell_tell, Machine.tell_tell]
    rfl
  have hinstall := installTable_built hloaded built
  rw [boot_eq, hstart, bootLogger, bind_of_ok (installLogger_absent _ _),
    bind_of_ok (modify_log _ _ _), bind_of_ok (sharedTable_none _)]
  cases hcheck : segments.check (loaded m).reads with
  | error e =>
    rw [hcheck] at hinstall
    exact bind_of_error hinstall _
  | ok _ =>
    rw [hcheck] at hinstall
    refine (bind_of_ok hinstall _).trans ?_
    rw [bind_of_ok (modify_log _ _ _), Machine.tell_tell]
    rfl

end Kernel

end Segmentation
