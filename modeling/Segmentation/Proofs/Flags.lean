import Mathlib.Data.List.Basic
import Segmentation.Flags
import Segmentation.Proofs.Text.Template

namespace Segmentation.Flags

variable {k : FlagByte}

def join (parts : List UInt8) : UInt8 := parts.foldr (· ||| ·) 0

section Split

variable (bits left : UInt8) (fs : List (String × UInt8))

theorem or_and_not (x y z : UInt8) : x ||| (y ||| (z &&& ~~~x)) = x ||| (y ||| z) := by
  simp only [← UInt8.toBitVec_inj, UInt8.toBitVec_and, UInt8.toBitVec_or, UInt8.toBitVec_not,
    BitVec.eq_of_getLsbD_eq_iff]
  grind

theorem or_eq_left {x y : UInt8} (h : x &&& y = y) : x ||| y = x := by
  simp only [← UInt8.toBitVec_inj, UInt8.toBitVec_and, UInt8.toBitVec_or,
    BitVec.eq_of_getLsbD_eq_iff] at h ⊢
  grind

theorem or_join_split : bits ||| join ((split bits left fs).1.map (·.2)) = bits := by
  induction fs generalizing left with
  | nil => simp [split, join]
  | cons f fs ih =>
    rw [split]
    split
    · next taken =>
      simp only [join, List.map_cons, List.foldr_cons] at ih ⊢
      rw [← UInt8.or_assoc, or_eq_left taken.1, ih]
    · exact ih left

theorem join_split_or :
    join ((split bits left fs).1.map (·.2)) ||| (split bits left fs).2 =
      join ((split bits left fs).1.map (·.2)) ||| left := by
  induction fs generalizing left with
  | nil => rfl
  | cons f fs ih =>
    rw [split]
    split
    · simp only [join, List.map_cons, List.foldr_cons] at ih ⊢
      rw [UInt8.or_assoc, ih, or_and_not, UInt8.or_assoc]
    · exact ih left

theorem mem_of_mem_split {f : String × UInt8} (h : f ∈ (split bits left fs).1) : f ∈ fs := by
  induction fs generalizing left with
  | nil => exact h
  | cons g fs ih =>
    rw [split] at h
    split at h
    · rcases List.mem_cons.mp h with rfl | later
      · exact List.mem_cons_self
      · exact List.mem_cons_of_mem g (ih _ later)
    · exact List.mem_cons_of_mem g (ih _ h)

end Split

variable (a b : Flags k)

theorem join_append (parts parts' : List UInt8) :
    join (parts ++ parts') = join parts ||| join parts' := by
  induction parts with
  | nil => simp [join]
  | cons bits parts ih =>
    simp only [join, List.cons_append, List.foldr_cons] at ih ⊢
    rw [ih, UInt8.or_assoc]

theorem join_pieces : join a.pieces = a.bits := by
  have rest : join (if a.unnamed = 0 then [] else [a.unnamed]) = a.unnamed := by
    split
    · next none => exact none.symm
    · exact UInt8.or_zero
  rw [pieces, join_append, rest, names, unnamed, join_split_or, UInt8.or_comm, or_join_split]

def parts : List String :=
  if a.bits = 0 then ["0x0"]
  else a.names.map (·.1) ++ if a.unnamed = 0 then [] else [Numeral.hex a.unnamed.toNat]

theorem text_eq : a.text = " | ".intercalate a.parts := by
  rw [text, parts]
  split
  · rfl
  · rfl

def worth (k : FlagByte) (part : String) : UInt8 :=
  match k.named.find? (·.1 = part) with
  | some f => f.2
  | none => .ofNat ((Numeral.read? 16 (part.toList.drop 2)).getD 0)

theorem worth_name {f : String × UInt8} (h : f ∈ k.named) : worth k f.1 = f.2 := by
  revert f
  cases k <;> decide

theorem worth_hex (n : UInt8) : worth k (Numeral.hex n.toNat) = n := by
  have letter : ∀ f ∈ k.named, f.1.toList.head? ≠ some '0' := by
    cases k <;> decide
  have unnamed : k.named.find? (·.1 = Numeral.hex n.toNat) = none := by
    rw [List.find?_eq_none]
    intro f mem named
    apply letter f mem
    rw [of_decide_eq_true named, Numeral.toList_hex]
    rfl
  have digits : Numeral.read? 16 (Nat.toDigits 16 n.toNat) = some n.toNat :=
    Numeral.read?_toDigits (by decide) (by decide) _
  rw [worth, unnamed, Numeral.toList_hex]
  simp [digits]

theorem join_worth_parts : join (a.parts.map (worth k)) = a.bits := by
  rw [parts]
  split
  · next zero =>
    rw [zero]
    exact UInt8.or_zero.trans (worth_hex 0)
  · have names : (a.names.map (·.1)).map (worth k) = a.names.map (·.2) := by
      rw [List.map_map]
      exact List.map_congr_left fun f mem => worth_name (mem_of_mem_split _ _ _ mem)
    rw [← join_pieces a, pieces, List.map_append, names]
    split
    · rfl
    · rw [List.map_singleton, worth_hex]

def isPart (c : Char) : Bool := !" ,)\n".toList.contains c

theorem all_isPart {part : String} (h : part ∈ a.parts) : part.toList.all isPart = true := by
  have name : ∀ f ∈ k.named, f.1.toList.all isPart = true := by
    cases k <;> decide +kernel
  have digits : Numeral.symbols.all isPart = true := by decide +kernel
  have numeral (n : Nat) : (Numeral.hex n).toList.all isPart = true := by
    rw [List.all_eq_true]
    intro c mem
    have either := List.all_eq_true.mp (Numeral.all_hex n) c mem
    rw [Numeral.isNumeral, Bool.or_eq_true] at either
    rcases either with isDigit | letter
    · exact List.all_eq_true.mp digits c (List.contains_iff_mem.mp isDigit)
    · rw [eq_of_beq letter]
      decide
  rw [parts] at h
  split at h
  · rw [List.mem_singleton.mp h]
    exact numeral 0
  · rcases List.mem_append.mp h with h | h
    · obtain ⟨f, mem, rfl⟩ := List.mem_map.mp h
      exact name f (mem_of_mem_split _ _ _ mem)
    · split at h
      · cases h
      · rw [List.mem_singleton.mp h]
        exact numeral _

theorem parts_ne_nil : a.parts ≠ [] := by
  intro none
  have zero : a.bits = 0 := by
    rw [← a.join_worth_parts, none]
    rfl
  rw [parts, if_pos zero] at none
  cases none

def isShown (c : Char) : Bool := !",)\n".toList.contains c

@[simp] theorem all_text : a.text.toList.all isShown = true := by
  have shown (c : Char) (h : isPart c = true) : isShown c = true := by
    simp [isPart] at h
    simp [isShown, h]
  rw [text_eq, String.toList_intercalate]
  apply Template.all_intercalate
  · decide
  · rw [List.forall_mem_map]
    intro part mem
    rw [List.all_eq_true]
    exact fun c within => shown c (List.all_eq_true.mp (a.all_isPart mem) c within)

variable {a b}

@[simp] theorem text_inj : a.text = b.text ↔ a = b := by
  constructor
  · intro h
    have blank (f : Flags k) : ∀ p ∈ f.parts.map String.toList, ' ' ∉ p := by
      rw [List.forall_mem_map]
      intro p mem blank
      exact absurd (List.all_eq_true.mp (f.all_isPart mem) ' ' blank) (by decide)
    have chars := congrArg String.toList h
    rw [text_eq, text_eq, String.toList_intercalate, String.toList_intercalate] at chars
    have same := Template.intercalate_inj (blank a) (blank b) (by simpa using a.parts_ne_nil)
      (by simpa using b.parts_ne_nil) chars
    have bits := a.join_worth_parts
    rw [Template.map_toList_inj same, b.join_worth_parts] at bits
    exact congrArg mk bits.symm
  · exact congrArg text

example : (⟨0x70⟩ : GranularityFlags).text = "SIZE_32 | LONG_MODE | 0x10" := by decide +kernel

end Segmentation.Flags
