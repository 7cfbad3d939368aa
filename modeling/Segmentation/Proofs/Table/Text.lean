import Mathlib.Data.List.Basic
import Segmentation.Bench
import Segmentation.Proofs.Descriptor.Text
import Segmentation.Proofs.Table.Invariant
import Segmentation.Proofs.Table.Reachable

namespace Segmentation.Table

theorem Stage.name_inj {s s' : Stage} (h : s.name = s'.name) : s = s' := by
  revert h
  cases s <;> cases s' <;> decide

def header (t : Table) : String :=
  "Gdt (" ++ Numeral.decimal t.len ++ "/" ++ Numeral.decimal t.capacity ++ " entries, " ++
    t.stage.name ++ ") ["

def row (k : Nat) (d : Descriptor) : String := "  " ++ Numeral.decimal k ++ ": " ++ d.text

def lines (t : Table) : List String := t.header :: (t.entries.mapIdx row ++ ["]"])

section Lines

variable (t : Table)

theorem join_lines (rows : List String) (last : String) :
    String.join (rows.map (· ++ "\n")) ++ last = "\n".intercalate (rows ++ [last]) := by
  induction rows with
  | nil => simp
  | cons row rows ih =>
    have more : rows ++ [last] ≠ [] := List.append_ne_nil_of_right_ne_nil _ (List.cons_ne_nil _ _)
    rw [List.cons_append, String.intercalate_cons_of_ne_nil more, ← ih]
    simp [String.append_assoc]

theorem text_eq : t.text = "\n".intercalate t.lines := by
  have more : t.entries.mapIdx row ++ ["]"] ≠ [] :=
    List.append_ne_nil_of_right_ne_nil _ (List.cons_ne_nil _ _)
  have rows : t.entries.mapIdx (fun k d => "  " ++ Numeral.decimal k ++ ": " ++ d.text ++ "\n") =
      (t.entries.mapIdx row).map (· ++ "\n") := by
    rw [List.mapIdx_eq_zipIdx_map, List.mapIdx_eq_zipIdx_map, List.map_map]
    rfl
  rw [lines, String.intercalate_cons_of_ne_nil more, ← join_lines, text, rows]
  simp only [header, String.append_assoc]
  rfl

theorem toList_header :
    t.header.toList = "Gdt (".toList ++ (Nat.toDigits 10 t.len ++ '/' ::
      (Nat.toDigits 10 t.capacity ++ ' ' :: ("entries, " ++ t.stage.name ++ ") [").toList)) := by
  simp [header]

theorem toList_row (k : Nat) (d : Descriptor) :
    (row k d).toList = "  ".toList ++ (Nat.toDigits 10 k ++ ": 0x".toList ++ d.digits) := by
  simp [row]

theorem newline_not_mem {line : String} (mem : line ∈ t.lines) : '\n' ∉ line.toList := by
  have other : Numeral.isDigit '\n' = false := by decide
  have decimal (n : Nat) : '\n' ∉ Nat.toDigits 10 n := fun mem =>
    Bool.eq_false_iff.mp other (Numeral.isDigit_of_mem_toDigits (by decide) (by decide) mem)
  rw [lines, List.mem_cons, List.mem_append, List.mem_mapIdx, List.mem_singleton] at mem
  rcases mem with rfl | ⟨k, _, rfl⟩ | rfl
  · have name : '\n' ∉ t.stage.name.toList := by cases t.stage <;> decide
    simp [toList_header, decimal, name]
  · have digits (d : Descriptor) : '\n' ∉ d.digits := fun mem =>
      Bool.eq_false_iff.mp other (Descriptor.isDigit_of_mem_digits mem)
    simp [toList_row, decimal, digits]
  · decide

theorem split_text : (t.text.split '\n').toList.map (·.copy) = t.lines := by
  have some : t.lines ≠ [] := List.cons_ne_nil _ _
  have split := String.toList_split_intercalate fun _ => t.newline_not_mem
  rw [if_neg some] at split
  rw [text_eq]
  exact split

end Lines

section Inj

variable {t t' : Table}

theorem header_inj (h : t.header = t'.header) :
    t.len = t'.len ∧ t.capacity = t'.capacity ∧ t.stage = t'.stage := by
  have chars := congrArg String.toList h
  rw [toList_header, toList_header, List.append_right_inj] at chars
  obtain ⟨len, chars⟩ :=
    Numeral.toDigits_append_inj (by decide) (by decide) (by decide) (by decide) chars
  obtain ⟨capacity, chars⟩ := Numeral.toDigits_append_inj (by decide) (by decide) (by decide)
    (by decide) (List.cons.inj chars).2
  have name := String.toList_inj.mp (List.cons.inj chars).2
  rw [String.append_left_inj, String.append_right_inj] at name
  exact ⟨len, capacity, Stage.name_inj name⟩

theorem rows_inj {es es' : List Descriptor} (h : es.mapIdx row = es'.mapIdx row) : es = es' := by
  apply List.ext_getElem?
  intro k
  have rows : (es.mapIdx row)[k]? = (es'.mapIdx row)[k]? := congrArg (·[k]?) h
  rw [List.getElem?_mapIdx, List.getElem?_mapIdx] at rows
  refine Option.map_injective (fun d d' same => ?_) rows
  rw [row, row, String.append_right_inj] at same
  exact Descriptor.text_inj same

theorem lines_inj (h : t.lines = t'.lines) : t.header = t'.header ∧ t.entries = t'.entries := by
  obtain ⟨header, rest⟩ := List.cons.inj h
  exact ⟨header, rows_inj (List.append_cancel_right rest)⟩

theorem WellFormed.text_eq_iff {n n' : Capacity} (wf : t.WellFormed n) (wf' : t'.WellFormed n') :
    t.text = t'.text ↔
      n = n' ∧ t.len = t'.len ∧ t.stage = t'.stage ∧ t.entries = t'.entries := by
  constructor
  · intro h
    have lines : t.lines = t'.lines := by rw [← split_text, ← split_text, h]
    obtain ⟨header, entries⟩ := lines_inj lines
    obtain ⟨len, capacity, stage⟩ := header_inj header
    rw [wf.capacity_eq, wf'.capacity_eq] at capacity
    refine ⟨?_, len, stage, entries⟩
    cases n
    cases n'
    cases capacity
    rfl
  · rintro ⟨rfl, len, stage, entries⟩
    rw [text, text, len, stage, entries, wf.capacity_eq, wf'.capacity_eq]

end Inj

section Listed

variable {n : Capacity} {t : Table}

structure Listed (n : Capacity) (t : Table) (lines : List String) : Prop where
  length_eq : lines.length = t.len + 2
  first : lines[0]? =
    some ("Gdt (" ++ t.len.repr ++ "/" ++ n.slots.repr ++ " entries, " ++ t.stage.name ++ ") [")
  entry : ∀ k, k < t.len → ∃ d digits, t.get? k = some d ∧ d.Spelled digits ∧
    lines[k + 1]? = some ("  " ++ k.repr ++ ": 0x" ++ String.ofList digits)
  last : lines[t.len + 1]? = some "]"

theorem WellFormed.length_rows (wf : t.WellFormed n) : (t.entries.mapIdx row).length = t.len := by
  rw [List.length_mapIdx, wf.length_entries]

theorem WellFormed.listed (wf : t.WellFormed n) : t.Listed n t.lines where
  length_eq := by
    rw [lines, List.length_cons, List.length_append, wf.length_rows, List.length_singleton]
  first := by
    rw [← wf.capacity_eq]
    rfl
  entry k lt := by
    obtain ⟨d, entry⟩ := Option.isSome_iff_exists.mp ((wf.get?_isSome_iff k).mpr lt)
    have row_eq : row k d = "  " ++ k.repr ++ ": 0x" ++ String.ofList d.digits := by
      have mark : ": 0x" = ": " ++ "0x" := rfl
      rw [row, d.text_eq, mark]
      simp only [String.append_assoc, Numeral.decimal]
    refine ⟨d, d.digits, entry, d.spelled, ?_⟩
    rw [lines, List.getElem?_cons_succ, List.getElem?_append_left (wf.length_rows.symm ▸ lt),
      List.getElem?_mapIdx, getElem?_entries, entry, ← row_eq]
    rfl
  last := by
    rw [lines, List.getElem?_cons_succ, ← wf.length_rows, List.getElem?_concat_length]

end Listed

end Segmentation.Table

namespace Segmentation

theorem text_tells {n : Capacity} {t : Table} (h : t.Reachable n) :
    t.Listed n ((t.text.split '\n').toList.map (·.copy)) ∧
      ∀ n' t', Table.Reachable n' t' →
        (t.text = t'.text ↔
          n = n' ∧ t.len = t'.len ∧ t.stage = t'.stage ∧ t.entries = t'.entries) := by
  constructor
  · rw [t.split_text]
    exact h.wellFormed.listed
  · exact fun _ _ h' => h.wellFormed.text_eq_iff h'.wellFormed

theorem text_tells_apart :
    let n : Capacity := ⟨6, by decide, by decide⟩
    let loaded (k : Nat) : Table := (Action.run Bench.loader (.new n (.table k), .empty 1)
      [.push (.kernelCode .longMode), .push (.kernelData .longMode), .set 4 .null,
        .load 0 .kernelCode .kernelData]).1
    let t := loaded 0
    t.Reachable n ∧ (loaded 1).Reachable n ∧ t.base ≠ (loaded 1).base ∧
      t.Listed n ((t.text.split '\n').toList.map (·.copy)) ∧ t.text = (loaded 1).text := by
  intro n loaded t
  have reachable (k : Nat) : (loaded k).Reachable n :=
    Table.Reachable.run (.made .fresh) Bench.loader _ _
  obtain ⟨listed, iff⟩ := text_tells (reachable 0)
  exact ⟨reachable 0, reachable 1, by decide, listed,
    (iff n (loaded 1) (reachable 1)).mpr ⟨rfl, by decide, by decide, by decide⟩⟩

example : (Table.new ⟨2, by decide, by decide⟩ (.table 0)).text =
    "Gdt (1/2 entries, Uninitialized) [\n  0: 0x0000000000000000\n]" := by
  decide

end Segmentation
