import Segmentation.Kernel.Boot
import Segmentation.Proofs.Text.Template

namespace Segmentation

def Address.isSign (c : Char) : Bool := Numeral.isNumeral c || "<table>".toList.contains c

@[simp] theorem Address.all_hex (a : Address) : a.hex.toList.all isSign = true := by
  have all {cs : List Char} (h : cs.all Numeral.isNumeral = true) : cs.all isSign = true := by
    rw [List.all_eq_true] at h ⊢
    intro c mem
    rw [isSign, h c mem, Bool.true_or]
  cases a with
  | table k =>
    have digits := all (Numeral.all_decimal k)
    have name : "<table".toList.all isSign = true := by decide
    have close : ">".toList.all isSign = true := by decide
    rw [hex, String.toList_append, String.toList_append, Numeral.toList_decimal, List.all_append,
      List.all_append, name, digits, close]
    rfl
  | number value => exact all (Numeral.all_hex _)

@[simp] theorem Address.hex_inj {a b : Address} : a.hex = b.hex ↔ a = b := by
  have other (k : Nat) (value : UInt64) : (table k).hex ≠ (number value).hex := fun h => by
    simpa [hex, Numeral.toList_hex] using congrArg String.toList h
  cases a with
  | table k =>
    cases b with
    | table k' => simp [hex]
    | number value => simp [other]
  | number value =>
    cases b with
    | table k => simp [(other k value).symm]
    | number value' => simp [hex, UInt64.toNat_inj]

@[simp] theorem Selector.hex_inj {s s' : Selector} : s.hex = s'.hex ↔ s = s' := by
  cases s
  cases s'
  simp [hex, UInt16.toNat_inj]

namespace SegmentError

inductive Kind where
  | limitTooLarge | missingNullDescriptor | nullSlotReserved | indexOutOfRange | tableFull
  | notPopulated | misaligned | selectorOutOfBounds | notCodeSegment | notDataSegment
  | notKernelSegment | selectorMismatch | tablePointerMismatch
  deriving DecidableEq

def kind : SegmentError → Kind
  | .limitTooLarge _ => .limitTooLarge
  | .missingNullDescriptor => .missingNullDescriptor
  | .nullSlotReserved => .nullSlotReserved
  | .indexOutOfRange _ _ => .indexOutOfRange
  | .tableFull _ => .tableFull
  | .notPopulated => .notPopulated
  | .misaligned _ => .misaligned
  | .selectorOutOfBounds _ => .selectorOutOfBounds
  | .notCodeSegment _ => .notCodeSegment
  | .notDataSegment _ => .notDataSegment
  | .notKernelSegment _ => .notKernelSegment
  | .selectorMismatch _ _ _ => .selectorMismatch
  | .tablePointerMismatch _ _ => .tablePointerMismatch

def address : Piece := .hole Address.isSign

/-- The name of a register may be any text. -/
def register : Piece := .hole fun _ => true

namespace Kind

def all : List Kind :=
  [limitTooLarge, missingNullDescriptor, nullSlotReserved, indexOutOfRange, tableFull,
    notPopulated, misaligned, selectorOutOfBounds, notCodeSegment, notDataSegment,
    notKernelSegment, selectorMismatch, tablePointerMismatch]

open Template in
def template : Kind → Template
  | limitTooLarge => word "segment limit " ++ numeral :: word " does not fit in 20 bits"
  | missingNullDescriptor => word "descriptor table must start with the null descriptor"
  | nullSlotReserved => word "index 0 is reserved for the null descriptor"
  | indexOutOfRange =>
    word "index " ++ numeral :: (word " is outside the table capacity of " ++ [numeral])
  | tableFull => word "descriptor table is full (" ++ numeral :: word " entries)"
  | notPopulated => word "descriptor table holds no segments besides the null descriptor"
  | misaligned => word "descriptor table base " ++ address :: word " is not aligned to 8 bytes"
  | selectorOutOfBounds =>
    word "selector " ++ numeral :: word " does not reference a populated entry"
  | notCodeSegment =>
    word "selector " ++ numeral :: word " does not reference a present code segment"
  | notDataSegment =>
    word "selector " ++ numeral :: word " does not reference a present writable data segment"
  | notKernelSegment => word "selector " ++ numeral :: word " is not a ring 0 selector"
  | selectorMismatch => register :: (word " holds " ++ numeral :: (word ", expected " ++ [numeral]))
  | tablePointerMismatch =>
    word "GDTR is " ++ address :: (word "/" ++ numeral :: (word ", expected " ++
      address :: (word "/" ++ [numeral])))

theorem mem_all (k : Kind) : k ∈ all := by
  cases k <;> decide

/-- Read from its end, a message shows its kind before it comes to a hole that takes anything. -/
theorem legible : ∀ k ∈ all, Template.isClear k.template.reverse = true ∧
    ∀ k' ∈ all, k ≠ k' → Template.diverges k.template.reverse k'.template.reverse = true := by
  decide +kernel

theorem isClear_reverse_template (k : Kind) : Template.isClear k.template.reverse = true :=
  (legible k k.mem_all).1

theorem diverges_reverse_template {k k' : Kind} (h : k ≠ k') :
    Template.diverges k.template.reverse k'.template.reverse = true :=
  (legible k k.mem_all).2 k' k'.mem_all h

end Kind

def details : SegmentError → List String
  | .limitTooLarge limit => [Numeral.hex limit.toNat]
  | .missingNullDescriptor | .nullSlotReserved | .notPopulated => []
  | .indexOutOfRange index capacity => [Numeral.decimal index, Numeral.decimal capacity]
  | .tableFull capacity => [Numeral.decimal capacity]
  | .misaligned base => [base.hex]
  | .selectorOutOfBounds s | .notCodeSegment s | .notDataSegment s | .notKernelSegment s => [s.hex]
  | .selectorMismatch register expected found => [register, found.hex, expected.hex]
  | .tablePointerMismatch expected found =>
    [found.base.hex, Numeral.hex found.limit.toNat, expected.base.hex,
      Numeral.hex expected.limit.toNat]

variable {e e' : SegmentError}

theorem spells_message (e : SegmentError) : e.kind.template.Spells e.details e.message := by
  constructor
  · cases e <;> simp [kind, Kind.template, details, Template.numeral, address, register,
      Selector.hex]
  · rw [message.eq_def]
    cases e <;> simp [kind, Kind.template, details, Template.numeral, address, register]

theorem eq_of_details (kind : e.kind = e'.kind) (details : e.details = e'.details) : e = e' := by
  cases e <;> cases e' <;> cases kind <;>
    simp_all [SegmentError.details, TablePointer.ext_iff, UInt16.toNat_inj, UInt32.toNat_inj]

theorem message_inj : e.message = e'.message ↔ e = e' := by
  constructor
  · intro h
    have spells := e'.spells_message
    rw [← h] at spells
    have kind : e.kind = e'.kind := by
      by_contra ne
      exact e.spells_message.not_diverges_reverse spells (Kind.diverges_reverse_template ne)
    rw [← kind] at spells
    exact eq_of_details kind
      (e.spells_message.unique_of_reverse spells e.kind.isClear_reverse_template)
  · exact congrArg message

end SegmentError

namespace BootError

theorem message_loggerInstalled : loggerInstalled.message = "a logger was already installed" := rfl

theorem message_segments (e : SegmentError) :
    (segments e).message = "GDT setup failed: " ++ e.message := rfl

theorem message_segments_ne (e : SegmentError) :
    (segments e).message ≠ loggerInstalled.message := fun h => by
  simpa [message_segments, message_loggerInstalled] using congrArg String.toList h

theorem message_segments_inj {e e' : SegmentError} :
    (segments e).message = (segments e').message ↔ e = e' := by
  rw [message_segments, message_segments, String.append_right_inj, SegmentError.message_inj]

theorem message_inj {b b' : BootError} : b.message = b'.message ↔ b = b' := by
  cases b with
  | loggerInstalled =>
    cases b' with
    | loggerInstalled => exact ⟨fun _ => rfl, fun _ => rfl⟩
    | segments e' => exact ⟨fun h => absurd h.symm (message_segments_ne e'), nofun⟩
  | segments e =>
    cases b' with
    | loggerInstalled => exact ⟨fun h => absurd h (message_segments_ne e), nofun⟩
    | segments e' => rw [message_segments_inj, segments.injEq]

end BootError

theorem messages_tell :
    (∀ e e' : SegmentError, e.message = e'.message ↔ e = e') ∧
      (∀ b b' : BootError, b.message = b'.message ↔ b = b') ∧
        ∀ e, (BootError.segments e).message ≠ BootError.loggerInstalled.message ∧
          ∀ e', (BootError.segments e).message = (BootError.segments e').message ↔ e = e' :=
  ⟨fun _ _ => SegmentError.message_inj, fun _ _ => BootError.message_inj,
    fun e => ⟨BootError.message_segments_ne e, fun _ => BootError.message_segments_inj⟩⟩

end Segmentation
