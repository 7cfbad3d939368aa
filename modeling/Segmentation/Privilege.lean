namespace Segmentation

inductive Privilege where
  | ring0 | ring1 | ring2 | ring3
  deriving DecidableEq

namespace Privilege

def level : Privilege → Nat
  | .ring0 => 0
  | .ring1 => 1
  | .ring2 => 2
  | .ring3 => 3

def ofBits (n : Nat) : Privilege :=
  match n % 4 with
  | 0 => .ring0
  | 1 => .ring1
  | 2 => .ring2
  | _ => .ring3

@[simp] theorem ofBits_level (p : Privilege) : ofBits p.level = p := by
  cases p <;> rfl

theorem level_ofBits (n : Nat) : (ofBits n).level = n % 4 := by
  have : n % 4 = 0 ∨ n % 4 = 1 ∨ n % 4 = 2 ∨ n % 4 = 3 := by omega
  rcases this with h | h | h | h <;> simp [ofBits, level, h]

def name : Privilege → String
  | .ring0 => "Ring0"
  | .ring1 => "Ring1"
  | .ring2 => "Ring2"
  | .ring3 => "Ring3"

end Privilege

end Segmentation
