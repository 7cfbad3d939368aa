namespace Segmentation.Numeral

def fixedDigits : (width n : Nat) → List Char
  | 0, _ => []
  | width + 1, n => fixedDigits width (n / 16) ++ [Nat.digitChar (n % 16)]

@[simp] theorem length_fixedDigits (width n : Nat) : (fixedDigits width n).length = width := by
  induction width generalizing n <;> simp [fixedDigits, *]

def hex (n : Nat) : String := "0x" ++ String.ofList (Nat.toDigits 16 n)

def fixedHex (width n : Nat) : String := "0x" ++ String.ofList (fixedDigits width n)

def decimal (n : Nat) : String := n.repr

end Segmentation.Numeral
