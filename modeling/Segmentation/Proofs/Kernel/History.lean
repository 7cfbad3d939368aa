import Segmentation.Kernel.Command
import Segmentation.Proofs.Kernel.Boot

namespace Segmentation

/-- A boot leaves a logger even where it fails. -/
def Command.installs : Command → Bool
  | .installLogger | .boot => true
  | _ => false

def Reply.isPastLogger : Reply → Bool
  | .booted _ | .failed (.segments _) => true
  | _ => false

namespace Host

def replies (h : Host) : List Command → List Reply
  | [] => []
  | c :: commands => (h.perform c).1 :: (h.perform c).2.replies commands

/-- What outlives the machines of a process, once a logger is installed and before. -/
structure Kept (installed : Bool) (h : Host) : Prop where
  logger : h.logger = .ofInstalled installed
  table : installed = false → h.kernel.table = none

theorem kept_start (m : Machine) : (start m).Kept false where
  logger := rfl
  table _ := rfl

def passed (m : Machine) (segments : Option ActiveSegments) : Host :=
  ⟨⟨m.logged, Kernel.built.markLoaded⟩, segments⟩

@[simp] theorem machine_passed (m : Machine) (segments : Option ActiveSegments) :
    (passed m segments).machine = m := rfl

theorem kept_passed (m : Machine) (segments : Option ActiveSegments) :
    (passed m segments).Kept true where
  logger := rfl
  table := nofun

section Boot

variable {h : Host}

theorem boot_of_ok {s : ActiveSegments} {k : Kernel} (hboot : Kernel.boot h.kernel = .ok s k) :
    h.boot = (.booted s, ⟨k, some s⟩) := by
  rw [boot, hboot]

theorem boot_of_error {e : BootError} {k : Kernel} (hboot : Kernel.boot h.kernel = .error e k) :
    h.boot = (.failed e, ⟨k, h.segments⟩) := by
  rw [boot, hboot]

theorem Kept.kernel_eq (kept : h.Kept false) :
    h.kernel = ⟨⟨h.machine, .ofInstalled false⟩, none⟩ := by
  obtain ⟨⟨⟨m, logger⟩, table⟩, segments⟩ := h
  obtain rfl : logger = .ofInstalled false := kept.logger
  obtain rfl : table = none := kept.table rfl
  rfl

theorem boot_refused (kept : h.Kept true) :
    h.boot = (.failed .loggerInstalled, h.mapMachine (·.emit Kernel.setup)) := by
  obtain ⟨⟨⟨m, logger⟩, table⟩, segments⟩ := h
  obtain rfl : logger = .ofInstalled true := kept.logger
  exact boot_of_error (Kernel.boot_logged m table)

theorem boot_verified (kept : h.Kept false)
    (hcheck : Kernel.segments.check (Kernel.loaded h.machine).reads = .ok ()) :
    h.boot = (.booted Kernel.segments, passed (Kernel.finished h.machine) Kernel.segments) := by
  have hboot := Kernel.boot_unstarted h.machine
  rw [← kept.kernel_eq, hcheck] at hboot
  exact boot_of_ok hboot

theorem boot_mismatched {e : SegmentError} (kept : h.Kept false)
    (hcheck : Kernel.segments.check (Kernel.loaded h.machine).reads = .error e) :
    h.boot = (.failed (.segments e), passed (Kernel.checked h.machine) h.segments) := by
  have hboot := Kernel.boot_unstarted h.machine
  rw [← kept.kernel_eq, hcheck] at hboot
  exact boot_of_error hboot

theorem boot_passed (kept : h.Kept false) :
    h.boot.1.isPastLogger = true ∧
      ∃ records segments, h.boot.2 = passed ((Kernel.checked h.machine).tell records) segments := by
  cases hcheck : Kernel.segments.check (Kernel.loaded h.machine).reads with
  | error e =>
    rw [boot_mismatched kept hcheck]
    exact ⟨rfl, [], h.segments, by rw [Machine.tell_nil]⟩
  | ok _ =>
    rw [boot_verified kept hcheck]
    exact ⟨rfl, Kernel.closing, some Kernel.segments, by rw [Kernel.finished]⟩

end Boot

namespace Kept

variable {h : Host} {installed : Bool}

theorem mapConsole {f : Console → Console} (kept : h.Kept installed)
    (logger : (f h.kernel.console).logger = h.logger) : (h.mapConsole f).Kept installed where
  logger := logger.trans kept.logger
  table := kept.table

theorem mapMachine (kept : h.Kept installed) (f : Machine → Machine) :
    (h.mapMachine f).Kept installed :=
  kept.mapConsole rfl

theorem logger_log (kept : h.Kept installed) (r : Record) :
    (Journal.log r h.kernel.console).logger = h.logger := by
  rw [Console.log_eq kept.logger, Console.logger_send]
  rfl

theorem logger_write (kept : h.Kept installed) (r : Record) :
    (Console.write r h.kernel.console).logger = h.logger := by
  rw [Console.write_eq kept.logger, Console.logger_send]
  rfl

theorem installLogger (kept : h.Kept installed) : h.installLogger.2.Kept true := by
  rw [Host.installLogger, kept.logger, Logger.install_ofInstalled]
  cases installed with
  | true => exact kept
  | false => exact ⟨rfl, nofun⟩

theorem boot (kept : h.Kept installed) : h.boot.2.Kept true := by
  cases installed with
  | true =>
    rw [boot_refused kept]
    exact kept.mapMachine (·.emit Kernel.setup)
  | false =>
    obtain ⟨-, records, segments, hboot⟩ := boot_passed kept
    rw [hboot]
    exact kept_passed _ segments

theorem rest (kept : h.Kept installed) : h.rest.2.Kept installed := by
  rw [Host.rest]
  split
  · exact kept
  · exact ⟨(kept.logger_log _).trans kept.logger, kept.table⟩

theorem perform (kept : h.Kept installed) (c : Command) :
    (h.perform c).2.Kept (installed || c.installs) := by
  have kept' : h.Kept (installed || false) := (Bool.or_false installed).symm ▸ kept
  cases c with
  | configureSerial => exact kept'.mapMachine Serial.configure
  | writeByte byte => exact kept'.mapMachine (Serial.writeByte byte)
  | writeText text => exact kept'.mapMachine (Serial.writeText text)
  | installLogger => exact (Bool.or_true installed).symm ▸ kept.installLogger
  | maxLevel => exact kept'
  | log r => exact kept'.mapConsole (kept.logger_log r)
  | record r => exact kept'.mapConsole (kept.logger_write r)
  | boot => exact (Bool.or_true installed).symm ▸ kept.boot
  | rest => exact kept'.rest
  | halt => exact kept'.mapMachine Machine.halt
  | replace m => exact kept'.mapMachine fun _ => m
  | registers => exact kept'

theorem run (kept : h.Kept installed) (history : List Command) :
    (h.run history).Kept (installed || history.any Command.installs) := by
  induction history generalizing h installed with
  | nil => simpa [Host.run] using kept
  | cons c history ih =>
    rw [List.any_cons, ← Bool.or_assoc]
    exact ih (kept.perform c)

theorem eq_boot_of_isPastLogger (kept : h.Kept installed) {c : Command}
    (past : (h.perform c).1.isPastLogger = true) : installed = false ∧ c = .boot := by
  cases c with
  | boot =>
    cases installed with
    | false => exact ⟨rfl, rfl⟩
    | true =>
      have hboot : (h.perform .boot).1 = .failed .loggerInstalled :=
        congrArg Prod.fst (boot_refused kept)
      rw [hboot] at past
      exact absurd past nofun
  | installLogger =>
    cases installed <;>
      simp [Host.perform, Host.installLogger, kept.logger, Logger.install_ofInstalled,
        Reply.isPastLogger] at past
  | rest =>
    rw [Host.perform, Host.rest] at past
    split at past <;> exact absurd past nofun
  | _ => exact absurd past nofun

theorem countP_replies (kept : h.Kept installed) (history : List Command) :
    (h.replies history).countP Reply.isPastLogger ≤ (!installed).toNat := by
  induction history generalizing h installed with
  | nil => exact Nat.zero_le _
  | cons c history ih =>
    have hlater := ih (kept.perform c)
    rw [replies, List.countP_cons]
    split
    next past =>
      -- This boot leaves a logger, so that none of the later replies counts.
      obtain ⟨rfl, rfl⟩ := kept.eq_boot_of_isPastLogger past
      exact Nat.succ_le_succ hlater
    next =>
      refine hlater.trans ?_
      cases installed with
      | true => exact Nat.le_refl _
      | false => exact Bool.toNat_le _

end Kept

theorem kept_run (m : Machine) (history : List Command) :
    ((start m).run history).Kept (history.any Command.installs) := by
  have kept := (kept_start m).run history
  rwa [Bool.false_or] at kept

structure FirstBoot (h : Host) : Prop where
  isPastLogger : h.boot.1.isPastLogger = true
  booted_iff : ∀ s, h.boot.1 = .booted s ↔
    h.boot.2.machine.active.1 = Kernel.segments ∧ s = Kernel.segments
  registers : ∀ r, h.boot.2.machine.registers r =
    if h.machine.stuck (.register r) then h.machine.registers r else Kernel.segments.selector r
  pointer : h.boot.2.machine.pointer =
    ⟨if h.machine.stuck .tableBase then h.machine.pointer.base else .table 0,
      if h.machine.stuck .tableLimit then h.machine.pointer.limit else 39⟩
  table : ∃ t, h.boot.2.kernel.table = some t ∧ t.pointer = Kernel.segments.table

structure LaterBoot (h : Host) : Prop where
  reply : h.boot.1 = .failed .loggerInstalled
  host : h.boot.2 = h.mapMachine (·.emit Kernel.setup)
  sent : Trace.sent h.boot.2.machine.trace = Trace.sent h.machine.trace
  registers : h.boot.2.machine.registers = h.machine.registers
  pointer : h.boot.2.machine.pointer = h.machine.pointer
  table : h.boot.2.kernel.table = h.kernel.table

section Boot

variable {h : Host}

theorem Kept.bare_boot (kept : h.Kept false) :
    h.boot.2.machine.bare = (h.machine.load Kernel.segments).bare := by
  obtain ⟨-, records, segments, hboot⟩ := boot_passed kept
  rw [hboot, machine_passed, Machine.bare_tell, Kernel.bare_checked, Kernel.bare_loaded]

theorem Kept.booted_iff (kept : h.Kept false) (s : ActiveSegments) :
    h.boot.1 = .booted s ↔
      h.boot.2.machine.active.1 = Kernel.segments ∧ s = Kernel.segments := by
  have hreads : h.boot.2.machine.active.1 = (Kernel.loaded h.machine).reads := by
    rw [Machine.active_eq]
    exact Machine.reads_eq_of_bare (kept.bare_boot.trans (Kernel.bare_loaded h.machine).symm)
  rw [hreads, ← ActiveSegments.check_eq_ok_iff]
  cases hcheck : Kernel.segments.check (Kernel.loaded h.machine).reads with
  | error e => simp [boot_mismatched kept hcheck]
  | ok _ => simp [boot_verified kept hcheck, eq_comm]

theorem Kept.firstBoot (kept : h.Kept false) : h.FirstBoot where
  isPastLogger := (boot_passed kept).1
  booted_iff := kept.booted_iff
  registers r := by
    have hregisters := congrArg Machine.registers kept.bare_boot
    exact (congrFun hregisters r).trans (h.machine.registers_load Kernel.segments r)
  pointer :=
    (congrArg Machine.pointer kept.bare_boot).trans (h.machine.pointer_load Kernel.segments)
  table := by
    obtain ⟨-, records, segments, hboot⟩ := boot_passed kept
    exact ⟨Kernel.built.markLoaded, by rw [hboot]; rfl, rfl⟩

theorem Kept.laterBoot (kept : h.Kept true) : h.LaterBoot := by
  have hboot := boot_refused kept
  have hmachine : h.boot.2.machine = h.machine.emit Kernel.setup := by
    rw [hboot]
    rfl
  have hsetup : Trace.sent Kernel.setup = [] := rfl
  exact
    { reply := by rw [hboot]
      host := by rw [hboot]
      sent := by rw [hmachine, Machine.trace_emit, Trace.sent_append, hsetup, List.append_nil]
      registers := by rw [hmachine, Machine.registers_emit]
      pointer := by rw [hmachine, Machine.pointer_emit]
      table := by rw [hboot]; rfl }

end Boot

structure Boots (m : Machine) (history : List Command) (h : Host) : Prop where
  booted_iff : ∀ s, h.boot.1 = .booted s ↔
    (∀ c ∈ history, c.installs = false) ∧
      h.boot.2.machine.active.1 = Kernel.segments ∧ s = Kernel.segments
  first : (∀ c ∈ history, c.installs = false) → h.FirstBoot
  later : ∀ c ∈ history, c.installs = true → h.LaterBoot
  once : ((start m).replies history).countP Reply.isPastLogger ≤ 1

theorem run_boots (m : Machine) (history : List Command) :
    Boots m history ((start m).run history) := by
  have kept := kept_run m history
  have hfirst (unused : ∀ c ∈ history, c.installs = false) :
      ((start m).run history).Kept false := by
    have hany : history.any Command.installs = false := by simpa using unused
    exact hany ▸ kept
  have hlater (c : Command) (hc : c ∈ history) (installs : c.installs = true) :
      ((start m).run history).Kept true := by
    have hany : history.any Command.installs = true := List.any_eq_true.mpr ⟨c, hc, installs⟩
    exact hany ▸ kept
  refine
    { booted_iff := fun s => ?_
      first := fun unused => (hfirst unused).firstBoot
      later := fun c hc installs => (hlater c hc installs).laterBoot
      once := (kept_start m).countP_replies history }
  by_cases unused : ∀ c ∈ history, c.installs = false
  · rw [(hfirst unused).booted_iff]
    exact (and_iff_right unused).symm
  · obtain ⟨c, hc, installs⟩ : ∃ c ∈ history, c.installs = true := by simpa using unused
    rw [(hlater c hc installs).laterBoot.reply]
    exact ⟨nofun, fun h => absurd h.1 unused⟩

end Host

end Segmentation
