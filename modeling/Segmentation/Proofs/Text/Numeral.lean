import Mathlib.Algebra.Group.Nat.Defs
import Segmentation.Text.Numeral

namespace Segmentation.Numeral

def symbols : List Char := "0123456789abcdef".toList

def digit? (c : Char) : Option Nat := symbols.idxOf? c

def isDigit (c : Char) : Bool := symbols.contains c

theorem digit?_digitChar {d : Nat} (h : d < 16) : digit? d.digitChar = some d := by
  revert d
  decide

theorem isDigit_digitChar {d : Nat} (h : d < 16) : isDigit d.digitChar = true := by
  revert d
  decide

def read? (base : Nat) (digits : List Char) : Option Nat :=
  digits.foldlM (fun n c => do
    let d ← digit? c
    if d < base then some (base * n + d) else none) 0

section Read

variable {base : Nat}

theorem read?_concat {digits : List Char} {n d : Nat} (h : read? base digits = some n)
    (lt : d < base) (small : base ≤ 16) :
    read? base (digits ++ [d.digitChar]) = some (base * n + d) := by
  rw [read?] at h
  rw [read?, List.foldlM_append, h]
  simp [digit?_digitChar (Nat.lt_of_lt_of_le lt small), lt]

theorem read?_toDigits (big : 1 < base) (small : base ≤ 16) (n : Nat) :
    read? base (Nat.toDigits base n) = some n := by
  induction n using Nat.strongRecOn with
  | ind n ih =>
    rw [Nat.toDigits_eq_if big]
    split
    · next lt =>
      have first : read? base ([] ++ [n.digitChar]) = some (base * 0 + n) :=
        read?_concat rfl lt small
      rwa [List.nil_append, Nat.mul_zero, Nat.zero_add] at first
    · next ge =>
      have shorter := ih (n / base) (Nat.div_lt_self (by omega) big)
      rw [read?_concat shorter (Nat.mod_lt n (by omega)) small, Nat.div_add_mod]

theorem div_lt_pow {width n : Nat} (h : n < 16 ^ (width + 1)) : n / 16 < 16 ^ width := by
  rw [Nat.pow_succ, Nat.mul_comm] at h
  exact Nat.div_lt_of_lt_mul h

theorem read?_fixedDigits {width n : Nat} (h : n < 16 ^ width) :
    read? 16 (fixedDigits width n) = some n := by
  induction width generalizing n with
  | zero =>
    rw [Nat.pow_zero, Nat.lt_one_iff] at h
    rw [h]
    rfl
  | succ width ih =>
    have shorter := ih (div_lt_pow h)
    rw [fixedDigits, read?_concat shorter (Nat.mod_lt n (by decide)) (Nat.le_refl 16),
      Nat.div_add_mod]

theorem fixedDigits_inj {width m n : Nat} (hm : m < 16 ^ width) (hn : n < 16 ^ width)
    (h : fixedDigits width m = fixedDigits width n) : m = n := by
  have read := congrArg (read? 16) h
  rwa [read?_fixedDigits hm, read?_fixedDigits hn, Option.some_inj] at read

theorem toDigits_inj (big : 1 < base) (small : base ≤ 16) {m n : Nat}
    (h : Nat.toDigits base m = Nat.toDigits base n) : m = n := by
  have read := congrArg (read? base) h
  rwa [read?_toDigits big small, read?_toDigits big small, Option.some_inj] at read

end Read

theorem isDigit_of_mem_fixedDigits {width n : Nat} {c : Char} (h : c ∈ fixedDigits width n) :
    isDigit c = true := by
  induction width generalizing n with
  | zero => exact absurd h List.not_mem_nil
  | succ width ih =>
    rw [fixedDigits, List.mem_append, List.mem_singleton] at h
    rcases h with h | rfl
    · exact ih h
    · exact isDigit_digitChar (Nat.mod_lt n (by decide))

theorem isDigit_of_mem_toDigits {base n : Nat} (big : 1 < base) (small : base ≤ 16) {c : Char}
    (h : c ∈ Nat.toDigits base n) : isDigit c = true := by
  induction n using Nat.strongRecOn with
  | ind n ih =>
    rw [Nat.toDigits_eq_if big] at h
    split at h
    · next lt =>
      rw [List.mem_singleton.mp h]
      exact isDigit_digitChar (Nat.lt_of_lt_of_le lt small)
    · next ge =>
      rcases List.mem_append.mp h with h | h
      · exact ih (n / base) (Nat.div_lt_self (by omega) big) h
      · rw [List.mem_singleton.mp h]
        exact isDigit_digitChar (Nat.lt_of_lt_of_le (Nat.mod_lt n (by omega)) small)

section Cut

variable {digits : List Char} {c : Char}

theorem takeWhile_digits (all : ∀ d ∈ digits, isDigit d = true) (stop : isDigit c = false)
    (rest : List Char) : (digits ++ c :: rest).takeWhile isDigit = digits := by
  rw [List.takeWhile_append_of_pos all, List.takeWhile_cons_of_neg (by rw [stop]; exact nofun),
    List.append_nil]

theorem dropWhile_digits (all : ∀ d ∈ digits, isDigit d = true) (stop : isDigit c = false)
    (rest : List Char) : (digits ++ c :: rest).dropWhile isDigit = c :: rest := by
  rw [List.dropWhile_append_of_pos all, List.dropWhile_cons_of_neg (by rw [stop]; exact nofun)]

theorem toDigits_append_inj {base : Nat} (big : 1 < base) (small : base ≤ 16) {m n : Nat}
    {x y : Char} {s t : List Char} (hx : isDigit x = false) (hy : isDigit y = false)
    (h : Nat.toDigits base m ++ x :: s = Nat.toDigits base n ++ y :: t) :
    m = n ∧ x :: s = y :: t := by
  have all (k : Nat) (c : Char) (mem : c ∈ Nat.toDigits base k) : isDigit c = true :=
    isDigit_of_mem_toDigits big small mem
  have digits := congrArg (List.takeWhile isDigit) h
  rw [takeWhile_digits (all m) hx, takeWhile_digits (all n) hy] at digits
  have rest := congrArg (List.dropWhile isDigit) h
  rw [dropWhile_digits (all m) hx, dropWhile_digits (all n) hy] at rest
  exact ⟨toDigits_inj big small digits, rest⟩

end Cut

section Order

theorem digitChar_lt_iff {d e : Nat} (hd : d < 16) (he : e < 16) :
    d.digitChar < e.digitChar ↔ d < e := by
  have all : ∀ d < 16, ∀ e < 16, d.digitChar < e.digitChar ↔ d < e := by decide
  exact all d hd e he

theorem append_lt_append_iff {as bs : List Char} (h : as.length = bs.length) (xs ys : List Char) :
    as ++ xs < bs ++ ys ↔ as < bs ∨ as = bs ∧ xs < ys := by
  induction as generalizing bs with
  | nil =>
    cases bs with
    | nil => simp
    | cons b bs => cases h
  | cons a as ih =>
    cases bs with
    | nil => cases h
    | cons b bs =>
      rw [List.cons_append, List.cons_append, List.cons_lt_cons_iff, List.cons_lt_cons_iff,
        ih (Nat.succ.inj h), List.cons.injEq, and_or_left, or_assoc, and_assoc]

theorem fixedDigits_lt_iff {width m n : Nat} (hm : m < 16 ^ width) (hn : n < 16 ^ width) :
    fixedDigits width m < fixedDigits width n ↔ m < n := by
  induction width generalizing m n with
  | zero =>
    rw [Nat.pow_zero, Nat.lt_one_iff] at hm hn
    simp [fixedDigits, hm, hn]
  | succ width ih =>
    have less := ih (div_lt_pow hm) (div_lt_pow hn)
    have same : fixedDigits width (m / 16) = fixedDigits width (n / 16) ↔ m / 16 = n / 16 :=
      ⟨fixedDigits_inj (div_lt_pow hm) (div_lt_pow hn), congrArg _⟩
    have last : [(m % 16).digitChar] < [(n % 16).digitChar] ↔ m % 16 < n % 16 := by
      simp [List.cons_lt_cons_iff,
        digitChar_lt_iff (Nat.mod_lt m (by decide)) (Nat.mod_lt n (by decide))]
    have length : (fixedDigits width (m / 16)).length = (fixedDigits width (n / 16)).length := by
      rw [length_fixedDigits, length_fixedDigits]
    rw [fixedDigits, fixedDigits, append_lt_append_iff length, less, same, last]
    -- The last digit decides only between numbers that agree in all others.
    omega

end Order

@[simp] theorem toList_decimal (n : Nat) : (decimal n).toList = Nat.toDigits 10 n :=
  Nat.toList_repr

@[simp] theorem toList_fixedHex (width n : Nat) :
    (fixedHex width n).toList = '0' :: 'x' :: fixedDigits width n := by
  simp [fixedHex]

theorem fixedHex_lt_iff {width m n : Nat} (hm : m < 16 ^ width) (hn : n < 16 ^ width) :
    fixedHex width m < fixedHex width n ↔ m < n := by
  change (fixedHex width m).toList < (fixedHex width n).toList ↔ m < n
  rw [toList_fixedHex, toList_fixedHex, List.cons_lt_cons_self, List.cons_lt_cons_self,
    fixedDigits_lt_iff hm hn]

theorem toList_hex (n : Nat) : (hex n).toList = '0' :: 'x' :: Nat.toDigits 16 n := by
  simp [hex]

@[simp] theorem decimal_inj {m n : Nat} : decimal m = decimal n ↔ m = n := by
  constructor
  · intro h
    apply toDigits_inj (by decide : 1 < 10) (by decide)
    simpa using congrArg String.toList h
  · exact congrArg decimal

@[simp] theorem hex_inj {m n : Nat} : hex m = hex n ↔ m = n := by
  constructor
  · intro h
    apply toDigits_inj (by decide : 1 < 16) (by decide)
    simpa [toList_hex] using congrArg String.toList h
  · exact congrArg hex

def isNumeral (c : Char) : Bool := isDigit c || c == 'x'

theorem all_toDigits {base : Nat} (big : 1 < base) (small : base ≤ 16) (n : Nat) :
    (Nat.toDigits base n).all isNumeral = true := by
  rw [List.all_eq_true]
  intro c mem
  rw [isNumeral, isDigit_of_mem_toDigits big small mem, Bool.true_or]

@[simp] theorem all_decimal (n : Nat) : (Nat.toDigits 10 n).all isNumeral = true :=
  all_toDigits (by decide) (by decide) n

@[simp] theorem all_hex (n : Nat) : (hex n).toList.all isNumeral = true := by
  rw [toList_hex, List.all_cons, List.all_cons, all_toDigits (by decide) (by decide)]
  decide

end Segmentation.Numeral
