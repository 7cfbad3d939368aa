import Segmentation.Descriptor
import Segmentation.Proofs.Text.Numeral

namespace Segmentation.Descriptor

def digits (d : Descriptor) : List Char := Numeral.fixedDigits 16 d.raw.toNat

structure Spelled (d : Descriptor) (digits : List Char) : Prop where
  length_eq : digits.length = 16
  mem : ∀ c ∈ digits, c ∈ "0123456789abcdef".toList
  read?_eq : Numeral.read? 16 digits = some d.raw.toNat

theorem text_eq (d : Descriptor) : d.text = "0x" ++ String.ofList d.digits := rfl

@[simp] theorem toList_text (d : Descriptor) : d.text.toList = '0' :: 'x' :: d.digits :=
  Numeral.toList_fixedHex 16 _

theorem isDigit_of_mem_digits {d : Descriptor} {c : Char} (h : c ∈ d.digits) :
    Numeral.isDigit c = true :=
  Numeral.isDigit_of_mem_fixedDigits h

theorem spelled (d : Descriptor) : d.Spelled d.digits where
  length_eq := Numeral.length_fixedDigits 16 _
  mem _ mem := List.contains_iff_mem.mp (isDigit_of_mem_digits mem)
  read?_eq := Numeral.read?_fixedDigits d.raw.toNat_lt

theorem Spelled.unique {digits : List Char} {d d' : Descriptor} (h : d.Spelled digits)
    (h' : d'.Spelled digits) : d = d' := by
  have raw : some d.raw.toNat = some d'.raw.toNat := h.read?_eq.symm.trans h'.read?_eq
  cases d
  cases d'
  exact congrArg Descriptor.mk (UInt64.toNat_inj.mp (Option.some.inj raw))

theorem text_inj {d d' : Descriptor} (h : d.text = d'.text) : d = d' := by
  have chars := congrArg String.toList h
  rw [toList_text, toList_text, List.cons_inj_right, List.cons_inj_right] at chars
  have spelled := d'.spelled
  rw [← chars] at spelled
  exact d.spelled.unique spelled

theorem length_text (d : Descriptor) : d.text.length = 18 := by
  rw [← String.length_toList, toList_text, List.length_cons, List.length_cons,
    d.spelled.length_eq]

theorem text_lt_iff {d d' : Descriptor} : d.text < d'.text ↔ d.raw < d'.raw := by
  rw [UInt64.lt_iff_toNat_lt]
  exact Numeral.fixedHex_lt_iff d.raw.toNat_lt d'.raw.toNat_lt

theorem text_eq_iff {d d' : Descriptor} : d.text = d'.text ↔ d.raw = d'.raw := by
  constructor
  · exact fun h => congrArg raw (text_inj h)
  · intro h
    rw [text, text, h]

theorem compare_eq_compare {s t : String} {x y : UInt64} (lt : s < t ↔ x < y)
    (eq : s = t ↔ x = y) : compare s t = compare x y := by
  change compareOfLessAndEq s t = compareOfLessAndEq x y
  simp only [compareOfLessAndEq, lt, eq]

theorem compare_text (d d' : Descriptor) : compare d.text d'.text = compare d.raw d'.raw :=
  compare_eq_compare text_lt_iff text_eq_iff

theorem text_ordered (d : Descriptor) :
    d.text.length = 18 ∧
    (∃ digits, d.text = "0x" ++ String.ofList digits ∧ d.Spelled digits) ∧
    ∀ d' : Descriptor, compare d.text d'.text = compare d.raw d'.raw :=
  ⟨d.length_text, ⟨d.digits, d.text_eq, d.spelled⟩, d.compare_text⟩

example :
    text ⟨0x9F⟩ = "0x000000000000009f" ∧ compare (text ⟨0x9F⟩) (text ⟨0xA0⟩) = .lt := by
  decide

end Segmentation.Descriptor
