import Segmentation.Proofs.Kernel.History

namespace Segmentation

namespace Level

def heading? : Level → Option String
  | .error => some "[ERROR] "
  | .warn => some "[ WARN] "
  | .info => some "[ INFO] "
  | .debug => some "[DEBUG] "
  | .trace => none

theorem isSome_heading? (level : Level) :
    level.heading?.isSome = Logger.filter.admits level := by
  cases level <;> rfl

theorem heading_eq {level : Level} {heading : String} (h : level.heading? = some heading) :
    "[" ++ String.ofList (level.name.toList.leftpad 5 ' ') ++ "] " = heading := by
  cases level with
  | trace => cases h
  | _ =>
    cases h
    decide

end Level

def Record.spoken (r : Record) : List UInt8 :=
  match r.level.heading? with
  | some heading => utf8 (heading ++ r.target ++ ": " ++ r.message ++ "\n")
  | none => []

theorem Console.admitted_eq (installed : Bool) (r : Record) :
    admitted installed r = if installed then r.spoken else [] := by
  cases installed with
  | false => rfl
  | true =>
    rw [admitted, Bool.true_and, ← Level.isSome_heading?, Record.spoken]
    cases hheading : r.level.heading? with
    | none => rfl
    | some heading =>
      rw [Option.isSome_some, if_pos rfl, if_pos rfl, Record.bytes, Record.line,
        Level.heading_eq hheading]

inductive LineCommand where
  | configure
  | byte (value : UInt8)
  | text (content : String)
  | installLogger
  | log (r : Record)
  | record (r : Record)

namespace LineCommand

def toCommand : LineCommand → Command
  | .configure => .configureSerial
  | .byte value => .writeByte value
  | .text content => .writeText content
  | .installLogger => .installLogger
  | .log r => .log r
  | .record r => .record r

theorem installs_toCommand (c : LineCommand) :
    c.toCommand.installs = true ↔ c = .installLogger := by
  cases c <;> simp [toCommand, Command.installs]

def bytes (installed : Bool) : LineCommand → List UInt8
  | .configure | .installLogger => []
  | .byte value => [value]
  | .text content => utf8 content
  | .log r | .record r => if installed then r.spoken else []

def output (installed : Bool) : List LineCommand → List UInt8
  | [] => []
  | c :: commands => c.bytes installed ++ output (installed || c.toCommand.installs) commands

end LineCommand

namespace Host

theorem machine_installLogger (h : Host) : h.installLogger.2.machine = h.machine := by
  rw [installLogger]
  split <;> rfl

variable {h : Host} {installed : Bool}

theorem Kept.sent_perform (kept : h.Kept installed) (c : LineCommand) :
    Trace.sent (h.perform c.toCommand).2.machine.trace =
      Trace.sent h.machine.trace ++ c.bytes installed := by
  cases c with
  | configure => exact (Serial.sent_configure h.machine).trans (List.append_nil _).symm
  | byte value => exact Serial.sent_send [value] h.machine
  | text content =>
    change Trace.sent (Serial.writeText content h.machine).trace = _
    rw [Serial.writeText_eq, Serial.sent_send]
    rfl
  | installLogger =>
    change Trace.sent h.installLogger.2.machine.trace = _
    rw [machine_installLogger]
    exact (List.append_nil _).symm
  | log r =>
    change Trace.sent (Journal.log r h.kernel.console).machine.trace = _
    rw [Console.log_eq kept.logger, Console.admitted_eq]
    exact Serial.sent_send _ h.machine
  | record r =>
    change Trace.sent (Console.write r h.kernel.console).machine.trace = _
    rw [Console.write_eq kept.logger, Console.admitted_eq]
    exact Serial.sent_send _ h.machine

theorem Kept.sent_run (kept : h.Kept installed) (commands : List LineCommand) :
    Trace.sent (h.run (commands.map LineCommand.toCommand)).machine.trace =
      Trace.sent h.machine.trace ++ LineCommand.output installed commands := by
  induction commands generalizing h installed with
  | nil => exact (List.append_nil _).symm
  | cons c commands ih =>
    have hlater := ih (kept.perform c.toCommand)
    rw [kept.sent_perform, List.append_assoc] at hlater
    exact hlater

structure Outputs (m : Machine) (commands : List LineCommand) (h : Host) : Prop where
  sent : Trace.sent h.machine.trace = Trace.sent m.trace ++ LineCommand.output false commands
  installs : .installLogger ∉ commands → h.perform .installLogger =
    (.done, h.mapConsole fun c => { c with logger := ⟨true, .upTo .debug⟩ })
  stays_installed : .installLogger ∈ commands → h.perform .installLogger = (.alreadyInstalled, h)
  filters_agree : ∀ level, h.logger.maxLevel.admits level = h.logger.isEnabled level

theorem run_outputs (m : Machine) (commands : List LineCommand) :
    Outputs m commands ((start m).run (commands.map LineCommand.toCommand)) := by
  have kept := kept_run m (commands.map LineCommand.toCommand)
  have hinstalled : (commands.map LineCommand.toCommand).any Command.installs = true ↔
      .installLogger ∈ commands := by
    simp [LineCommand.installs_toCommand]
  refine
    { sent := (kept_start m).sent_run commands
      installs := fun hmem => ?_
      stays_installed := fun hmem => ?_
      filters_agree := fun level => ?_ }
  · rw [perform, installLogger, kept.logger, Logger.install_ofInstalled,
      if_neg (mt hinstalled.mp hmem)]
    rfl
  · rw [perform, installLogger, kept.logger, Logger.install_ofInstalled,
      if_pos (hinstalled.mpr hmem)]
  · rw [kept.logger, Logger.maxLevel_admits, Logger.isEnabled_ofInstalled]

end Host

end Segmentation
