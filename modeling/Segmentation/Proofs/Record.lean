import Mathlib.Data.List.Basic
import Segmentation.Proofs.Descriptor.Text
import Segmentation.Table

namespace Segmentation.Record

def readWritten? (message : String) : Option (Nat × Descriptor) := do
  let shown ← message.toList.dropPrefix? "gdt[".toList
  let index ← Numeral.read? 10 (shown.takeWhile Numeral.isDigit)
  let digits ← (shown.dropWhile Numeral.isDigit).dropPrefix? "] = 0x".toList
  if digits.length = 16 then some (index, ⟨.ofNat (← Numeral.read? 16 digits)⟩) else none

def Shows (message : String) (index : Nat) (d : Descriptor) : Prop :=
  ∃ digits : List Char, d.Spelled digits ∧
    message = "gdt[" ++ index.repr ++ "] = 0x" ++ String.ofList digits

section Written

variable (index : Nat) (d : Descriptor)

theorem shows_written : Shows (written index d).message index d := by
  have bracket : "] = 0x" = "] = " ++ "0x" := rfl
  refine ⟨d.digits, d.spelled, ?_⟩
  rw [written, d.text_eq, bracket]
  simp only [String.append_assoc, Numeral.decimal]

theorem readWritten?_written : readWritten? (written index d).message = some (index, d) := by
  have all (c : Char) (mem : c ∈ Nat.toDigits 10 index) : Numeral.isDigit c = true :=
    Numeral.isDigit_of_mem_toDigits (by decide) (by decide) mem
  have stop : Numeral.isDigit ']' = false := by decide
  have message : (written index d).message.toList =
      "gdt[".toList ++ (Nat.toDigits 10 index ++ ']' :: (" = 0x".toList ++ d.digits)) := by
    simp [written]
  have drop (lead rest : List Char) : (lead ++ rest).dropPrefix? lead = some rest :=
    List.dropPrefix?_append_of_beq _ (beq_self_eq_true _)
  have tail : (']' :: (" = 0x".toList ++ d.digits)).dropPrefix? "] = 0x".toList = some d.digits :=
    drop "] = 0x".toList d.digits
  have decimal : Numeral.read? 10 (Nat.toDigits 10 index) = some index :=
    Numeral.read?_toDigits (by decide) (by decide) index
  have raw : UInt64.ofNat d.raw.toNat = d.raw := UInt64.ofNat_toNat
  simp only [readWritten?, message, drop, Option.bind_eq_bind, Option.bind_some,
    Numeral.takeWhile_digits all stop, Numeral.dropWhile_digits all stop, decimal, tail,
    d.spelled.length_eq, if_pos, d.spelled.read?_eq, raw]

end Written

end Segmentation.Record
