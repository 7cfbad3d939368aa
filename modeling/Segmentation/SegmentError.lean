import Segmentation.Address
import Segmentation.Selector
import Segmentation.Text.Quoted

namespace Segmentation

inductive SegmentError where
  | limitTooLarge (limit : UInt32)
  | missingNullDescriptor
  | nullSlotReserved
  | indexOutOfRange (index capacity : Nat)
  | tableFull (capacity : Nat)
  | notPopulated
  | misaligned (base : Address)
  | selectorOutOfBounds (selector : Selector)
  | notCodeSegment (selector : Selector)
  | notDataSegment (selector : Selector)
  | notKernelSegment (selector : Selector)
  | selectorMismatch (register : String) (expected found : Selector)
  | tablePointerMismatch (expected found : TablePointer)
  deriving DecidableEq

namespace SegmentError

def name : SegmentError → String
  | limitTooLarge _ => "LimitTooLarge"
  | missingNullDescriptor => "MissingNullDescriptor"
  | nullSlotReserved => "NullSlotReserved"
  | indexOutOfRange _ _ => "IndexOutOfRange"
  | tableFull _ => "TableFull"
  | notPopulated => "NotPopulated"
  | misaligned _ => "Misaligned"
  | selectorOutOfBounds _ => "SelectorOutOfBounds"
  | notCodeSegment _ => "NotCodeSegment"
  | notDataSegment _ => "NotDataSegment"
  | notKernelSegment _ => "NotKernelSegment"
  | selectorMismatch _ _ _ => "SelectorMismatch"
  | tablePointerMismatch _ _ => "TablePointerMismatch"

def message : SegmentError → String
  | limitTooLarge limit =>
    "segment limit " ++ Numeral.hex limit.toNat ++ " does not fit in 20 bits"
  | missingNullDescriptor => "descriptor table must start with the null descriptor"
  | nullSlotReserved => "index 0 is reserved for the null descriptor"
  | indexOutOfRange index capacity =>
    "index " ++ Numeral.decimal index ++ " is outside the table capacity of " ++
      Numeral.decimal capacity
  | tableFull capacity =>
    "descriptor table is full (" ++ Numeral.decimal capacity ++ " entries)"
  | notPopulated => "descriptor table holds no segments besides the null descriptor"
  | misaligned base => "descriptor table base " ++ base.hex ++ " is not aligned to 8 bytes"
  | selectorOutOfBounds s => "selector " ++ s.hex ++ " does not reference a populated entry"
  | notCodeSegment s => "selector " ++ s.hex ++ " does not reference a present code segment"
  | notDataSegment s =>
    "selector " ++ s.hex ++ " does not reference a present writable data segment"
  | notKernelSegment s => "selector " ++ s.hex ++ " is not a ring 0 selector"
  | selectorMismatch register expected found =>
    register ++ " holds " ++ found.hex ++ ", expected " ++ expected.hex
  | tablePointerMismatch expected found =>
    "GDTR is " ++ found.base.hex ++ "/" ++ Numeral.hex found.limit.toNat ++ ", expected " ++
      expected.base.hex ++ "/" ++ Numeral.hex expected.limit.toNat

def fields : SegmentError → List (String × String)
  | limitTooLarge limit => [("limit", Numeral.decimal limit.toNat)]
  | indexOutOfRange index capacity =>
    [("index", Numeral.decimal index), ("capacity", Numeral.decimal capacity)]
  | tableFull capacity => [("capacity", Numeral.decimal capacity)]
  | misaligned base => [("base", base.decimal)]
  | selectorOutOfBounds s | notCodeSegment s | notDataSegment s | notKernelSegment s =>
    [("selector", Numeral.decimal s.raw.toNat)]
  | selectorMismatch register expected found =>
    [("register", Quoted.quote register), ("expected", Numeral.decimal expected.raw.toNat),
      ("found", Numeral.decimal found.raw.toNat)]
  | tablePointerMismatch expected found =>
    [("expected_base", expected.base.decimal),
      ("expected_limit", Numeral.decimal expected.limit.toNat),
      ("found_base", found.base.decimal), ("found_limit", Numeral.decimal found.limit.toNat)]
  | missingNullDescriptor | nullSlotReserved | notPopulated => []

def debug (e : SegmentError) (o : Outline) : String := o.record e.name e.fields

end SegmentError

end Segmentation
