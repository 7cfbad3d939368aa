import Segmentation.Proofs.Descriptor.Fields
import Segmentation.Proofs.Flags

namespace Segmentation

namespace Outline

def spread (text : List Char) : List Char :=
  text.flatMap fun c => if c = '\n' then '\n' :: "    ".toList else [c]

theorem toList_indent (text : String) :
    (indent text).toList = "    ".toList ++ spread text.toList :=
  String.toList_ofList

@[simp] theorem spread_nil : spread [] = [] := rfl

@[simp] theorem spread_cons (c : Char) (text : List Char) :
    spread (c :: text) = (if c = '\n' then '\n' :: "    ".toList else [c]) ++ spread text :=
  List.flatMap_cons

@[simp] theorem spread_append (text text' : List Char) :
    spread (text ++ text') = spread text ++ spread text' :=
  List.flatMap_append

theorem spread_of_notMem {text : List Char} (h : '\n' ∉ text) : spread text = text := by
  induction text with
  | nil => rfl
  | cons c text ih =>
    rw [List.mem_cons, not_or] at h
    rw [spread_cons, if_neg (Ne.symm h.1), ih h.2, List.singleton_append]

end Outline

namespace Descriptor

def flags : Piece := .hole Flags.isShown

open Template in
def template : Outline → Template
  | .line =>
    word "Descriptor \x7b base: " ++ numeral :: (word ", limit: " ++ numeral ::
      (word ", access: AccessFlags(" ++ flags :: (word "), granularity: GranularityFlags(" ++
        flags :: word ") \x7d")))
  | .block =>
    word "Descriptor \x7b\n    base: " ++ numeral :: (word ",\n    limit: " ++ numeral ::
      (word ",\n    access: AccessFlags(\n        " ++ flags ::
        (word ",\n    ),\n    granularity: GranularityFlags(\n        " ++
          flags :: word ",\n    ),\n\x7d")))

def details (d : Descriptor) : List String :=
  [Numeral.hex d.base.toNat, Numeral.hex d.limit.toNat, d.access.text, d.granularity.text]

theorem spells_debug (d : Descriptor) (o : Outline) :
    (template o).Spells d.details (d.debug o) := by
  have number (n : Nat) : '\n' ∉ (Numeral.hex n).toList :=
    Template.notMem_of_takes (Numeral.all_hex n) (by decide)
  have shown {k : FlagByte} (f : Flags k) : '\n' ∉ f.text.toList :=
    Template.notMem_of_takes f.all_text (by decide)
  constructor
  · cases o <;> simp [template, Template.numeral, flags, details]
  · cases o with
    | line =>
      simp [debug, template, Template.numeral, flags, details, Outline.record, Outline.enclose,
        Outline.tuple, Flags.debug, FlagByte.typeName]
    | block =>
      simp [debug, template, Template.numeral, flags, details, Outline.record, Outline.enclose,
        Outline.tuple, Flags.debug, FlagByte.typeName, Outline.toList_indent,
        Outline.spread_of_notMem, number, shown]

theorem isClear_template (o : Outline) : (template o).isClear = true := by
  cases o <;> decide +kernel

theorem debug_inj {d d' : Descriptor} {o : Outline} : d.debug o = d'.debug o ↔ d = d' := by
  constructor
  · intro h
    have spells := d'.spells_debug o
    rw [← h] at spells
    have same := (d.spells_debug o).unique spells (isClear_template o)
    simp only [details, List.cons.injEq, Numeral.hex_inj, Flags.text_inj, UInt32.toNat_inj] at same
    obtain ⟨base, limit, access, granularity, -⟩ := same
    exact ext_fields base limit access granularity
  · exact congrArg (debug · o)

theorem debug_tells :
    (∀ (o : Outline) (raw raw' : UInt64),
      (Descriptor.mk raw).debug o = (Descriptor.mk raw').debug o ↔ raw = raw') ∧
    (∀ (k : FlagByte) (f f' : Flags k), f.text = f'.text ↔ f = f') ∧
    ∀ d d' : Descriptor, d.base = d'.base ∧ d.limit = d'.limit ∧ d.access = d'.access ∧
      d.granularity = d'.granularity ↔ d = d' := by
  refine ⟨fun o raw raw' => ?_, fun k f f' => Flags.text_inj, fun d d' => ?_⟩
  · rw [debug_inj, mk.injEq]
  · constructor
    · rintro ⟨base, limit, access, granularity⟩
      exact ext_fields base limit access granularity
    · rintro rfl
      exact ⟨rfl, rfl, rfl, rfl⟩

end Descriptor

end Segmentation
