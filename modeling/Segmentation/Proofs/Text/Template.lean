import Mathlib.Data.List.Basic
import Segmentation.Proofs.Text.Numeral

/-! Texts that differ in some places only. A template is what they have in common, with a hole for
each of these places. A hole takes some characters and no others, so that the next character of the
template shows where it ends. -/

namespace Segmentation

inductive Piece where
  | char (c : Char)
  | hole (takes : Char → Bool)

abbrev Template := List Piece

namespace Template

section Cut

theorem append_cons_inj {t u r s : List Char} {c d : Char} (hc : c ∉ u) (hd : d ∉ t)
    (h : t ++ c :: r = u ++ d :: s) : t = u ∧ c = d ∧ r = s := by
  rcases List.append_eq_append_iff.mp h with ⟨between, rfl, eq⟩ | ⟨between, rfl, eq⟩
  · cases between with
    | nil => exact ⟨(List.append_nil t).symm, List.cons.inj eq⟩
    | cons x xs => simp [(List.cons.inj eq).1] at hc
  · cases between with
    | nil =>
      obtain ⟨rfl, rfl⟩ := List.cons.inj eq
      exact ⟨List.append_nil u, rfl, rfl⟩
    | cons x xs => simp [(List.cons.inj eq).1] at hd

theorem intercalate_inj {c : Char} {sep : List Char} {ps qs : List (List Char)}
    (hp : ∀ p ∈ ps, c ∉ p) (hq : ∀ q ∈ qs, c ∉ q) (someP : ps ≠ []) (someQ : qs ≠ [])
    (h : (c :: sep).intercalate ps = (c :: sep).intercalate qs) : ps = qs := by
  induction ps generalizing qs with
  | nil => exact absurd rfl someP
  | cons p ps ih =>
    cases qs with
    | nil => exact absurd rfl someQ
    | cons q qs =>
      obtain ⟨freeP, laterP⟩ := List.forall_mem_cons.mp hp
      obtain ⟨freeQ, laterQ⟩ := List.forall_mem_cons.mp hq
      cases ps with
      | nil =>
        cases qs with
        | nil => simpa using h
        | cons q' qs =>
          simp only [List.intercalate_singleton, List.intercalate_cons_cons] at h
          simp [h] at freeP
      | cons p' ps =>
        cases qs with
        | nil =>
          simp only [List.intercalate_singleton, List.intercalate_cons_cons] at h
          simp [← h] at freeQ
        | cons q' qs =>
          simp only [List.intercalate_cons_cons, List.cons_append, List.append_assoc] at h
          obtain ⟨rfl, _, rest⟩ := append_cons_inj freeQ freeP h
          rw [ih laterP laterQ (List.cons_ne_nil _ _) (List.cons_ne_nil _ _)
            (List.append_cancel_left rest)]

theorem all_intercalate {takes : Char → Bool} {sep : List Char} {ps : List (List Char)}
    (hsep : sep.all takes = true) (hp : ∀ p ∈ ps, p.all takes = true) :
    (sep.intercalate ps).all takes = true := by
  induction ps with
  | nil => rfl
  | cons p ps ih =>
    obtain ⟨first, later⟩ := List.forall_mem_cons.mp hp
    cases ps with
    | nil => rwa [List.intercalate_singleton]
    | cons p' ps => simp [List.intercalate_cons_cons, hsep, first, ih later]

end Cut

def word (text : String) : Template := text.toList.map .char

def numeral : Piece := .hole Numeral.isNumeral

def fill : Template → List (List Char) → List Char
  | .char c :: f, ts => c :: fill f ts
  | .hole _ :: f, t :: ts => t ++ fill f ts
  | _, _ => []

inductive Fits : Template → List (List Char) → Prop
  | nil : Fits [] []
  | char {c : Char} {f : Template} {ts : List (List Char)} : Fits f ts → Fits (.char c :: f) ts
  | hole {takes : Char → Bool} {t : List Char} {f : Template} {ts : List (List Char)} :
    t.all takes = true → Fits f ts → Fits (.hole takes :: f) (t :: ts)

def stops (takes : Char → Bool) : Template → Bool
  | [] => true
  | .char c :: _ => !takes c
  | .hole _ :: _ => false

/-- Each hole ends where the template goes on. -/
def isClear : Template → Bool
  | [] => true
  | .char _ :: f => isClear f
  | .hole takes :: f => stops takes f && isClear f

/-- One need not read to the end to tell texts of one template from those of the other. -/
def diverges : Template → Template → Bool
  | .char c :: f, .char d :: g => c != d || diverges f g
  | .hole p :: .char c :: f, .hole q :: .char d :: g => !p d && !q c && (c != d || diverges f g)
  | .hole p :: .char c :: _, .char d :: _ => !p d && c != d
  | .char c :: _, .hole q :: .char d :: _ => !q c && c != d
  | _, _ => false

section Fill

variable {f g : Template} {ts us : List (List Char)}

@[simp] theorem fill_nil (ts : List (List Char)) : fill [] ts = [] := by
  simp [fill]

@[simp] theorem fill_word_append (text : String) (f : Template) (ts : List (List Char)) :
    fill (word text ++ f) ts = text.toList ++ fill f ts := by
  rw [word]
  induction text.toList with
  | nil => rfl
  | cons c cs ih => exact congrArg (c :: ·) ih

@[simp] theorem fill_word (text : String) : fill (word text) [] = text.toList := by
  simpa [fill] using fill_word_append text [] []

@[simp] theorem fill_hole (takes : Char → Bool) (f : Template) (t : List Char)
    (ts : List (List Char)) : fill (.hole takes :: f) (t :: ts) = t ++ fill f ts := rfl

@[simp] theorem fits_nil (ts : List (List Char)) : Fits [] ts ↔ ts = [] := by
  constructor
  · rintro ⟨⟩
    rfl
  · rintro rfl
    exact .nil

@[simp] theorem fits_char (c : Char) (f : Template) (ts : List (List Char)) :
    Fits (.char c :: f) ts ↔ Fits f ts := by
  constructor
  · rintro ⟨⟩
    assumption
  · exact .char

@[simp] theorem fits_hole (takes : Char → Bool) (f : Template) (t : List Char)
    (ts : List (List Char)) :
    Fits (.hole takes :: f) (t :: ts) ↔ t.all takes = true ∧ Fits f ts := by
  constructor
  · rintro ⟨⟩
    exact ⟨‹_›, ‹_›⟩
  · exact fun h => .hole h.1 h.2

@[simp] theorem fits_word_append (text : String) (f : Template) (ts : List (List Char)) :
    Fits (word text ++ f) ts ↔ Fits f ts := by
  rw [word]
  induction text.toList with
  | nil => rfl
  | cons c cs ih => simpa using ih

@[simp] theorem fits_word (text : String) (ts : List (List Char)) :
    Fits (word text) ts ↔ ts = [] := by
  simpa using fits_word_append text [] ts

theorem notMem_of_takes {takes : Char → Bool} {t : List Char} (h : t.all takes = true) {c : Char}
    (other : takes c = false) : c ∉ t :=
  fun mem => Bool.eq_false_iff.mp other (List.all_eq_true.mp h c mem)

theorem fill_inj (clear : f.isClear = true) (ht : f.Fits ts) (hu : f.Fits us)
    (h : f.fill ts = f.fill us) : ts = us := by
  induction ht generalizing us with
  | nil =>
    cases hu
    rfl
  | char _ ih =>
    cases hu with
    | char hu => exact ih clear hu (List.cons.inj h).2
  | @hole takes t f ts tookT ht ih =>
    cases hu with
    | @hole _ u _ us tookU hu =>
      rw [isClear, Bool.and_eq_true] at clear
      cases f with
      | nil =>
        cases ht
        cases hu
        simpa [fill] using h
      | cons next f =>
        cases next with
        | hole _ => exact absurd clear.1 (by simp [stops])
        | char c =>
          have other : takes c = false := by simpa [stops] using clear.1
          obtain ⟨rfl, _, rest⟩ :=
            append_cons_inj (notMem_of_takes tookU other) (notMem_of_takes tookT other) h
          rw [ih clear.2 hu (congrArg (c :: ·) rest)]

theorem fill_ne_of_diverges (h : diverges f g = true) (ht : f.Fits ts) (hu : g.Fits us) :
    f.fill ts ≠ g.fill us := by
  intro same
  fun_induction diverges f g generalizing ts us with
  | case1 c f d g ih =>
    cases ht with
    | char ht =>
      cases hu with
      | char hu =>
        obtain ⟨rfl, rest⟩ := List.cons.inj same
        exact ih (by simpa using h) ht hu rest
  | case2 p c f q d g ih =>
    simp only [Bool.and_eq_true, Bool.not_eq_true'] at h
    cases ht with
    | hole tookT ht =>
      cases hu with
      | hole tookU hu =>
        obtain ⟨_, rfl, rest⟩ :=
          append_cons_inj (notMem_of_takes tookU h.1.2) (notMem_of_takes tookT h.1.1) same
        exact ih (by simpa using h.2) (by simpa using ht) (by simpa using hu) rest
  | case3 p c f d g =>
    simp only [Bool.and_eq_true, Bool.not_eq_true', bne_iff_ne] at h
    cases ht with
    | hole tookT _ =>
      exact h.2 (append_cons_inj List.not_mem_nil (notMem_of_takes tookT h.1) same).2.1
  | case4 c f q d g =>
    simp only [Bool.and_eq_true, Bool.not_eq_true', bne_iff_ne] at h
    cases hu with
    | hole tookU _ =>
      exact h.2 (append_cons_inj (notMem_of_takes tookU h.1) List.not_mem_nil same).2.1
  | case5 => cases h

end Fill

section Reverse

variable {f g : Template} {ts us : List (List Char)}

theorem Fits.append (hf : f.Fits ts) (hg : g.Fits us) : Fits (f ++ g) (ts ++ us) := by
  induction hf with
  | nil => exact hg
  | char _ ih => exact .char ih
  | hole took _ ih => exact .hole took ih

theorem fill_append (hf : f.Fits ts) (g : Template) (us : List (List Char)) :
    fill (f ++ g) (ts ++ us) = fill f ts ++ fill g us := by
  induction hf with
  | nil => rfl
  | @char c _ _ _ ih => exact congrArg (c :: ·) ih
  | hole _ _ ih => simp [ih]

theorem Fits.reverse (hf : f.Fits ts) : Fits f.reverse (ts.map List.reverse).reverse := by
  induction hf with
  | nil => exact .nil
  | @char c _ _ _ ih =>
    have last : Fits [.char c] [] := .char .nil
    simpa using ih.append last
  | @hole takes t _ _ took _ ih =>
    have last : Fits [.hole takes] [t.reverse] := .hole (by simpa using took) .nil
    simpa using ih.append last

theorem reverse_fill (hf : f.Fits ts) :
    (fill f ts).reverse = fill f.reverse (ts.map List.reverse).reverse := by
  induction hf with
  | nil => rfl
  | @char c _ _ hf ih =>
    have last := fill_append hf.reverse [.char c] []
    simpa [fill, ih] using last.symm
  | @hole takes t _ _ _ hf ih =>
    have last := fill_append hf.reverse [.hole takes] [t.reverse]
    simpa [fill, ih] using last.symm

theorem fill_inj_of_reverse (clear : isClear f.reverse = true) (ht : f.Fits ts) (hu : f.Fits us)
    (h : f.fill ts = f.fill us) : ts = us := by
  have read := congrArg List.reverse h
  rw [reverse_fill ht, reverse_fill hu] at read
  have same := List.reverse_injective (fill_inj clear ht.reverse hu.reverse read)
  exact List.map_injective_iff.mpr List.reverse_injective same

theorem fill_ne_of_diverges_reverse (h : diverges f.reverse g.reverse = true) (ht : f.Fits ts)
    (hu : g.Fits us) : f.fill ts ≠ g.fill us := by
  intro same
  have read := congrArg List.reverse same
  rw [reverse_fill ht, reverse_fill hu] at read
  exact fill_ne_of_diverges h ht.reverse hu.reverse read

end Reverse

structure Spells (f : Template) (details : List String) (text : String) : Prop where
  fits : f.Fits (details.map String.toList)
  toList_eq : text.toList = f.fill (details.map String.toList)

theorem map_toList_inj {ts us : List String} (h : ts.map String.toList = us.map String.toList) :
    ts = us :=
  List.map_injective_iff.mpr (fun _ _ => String.toList_inj.mp) h

namespace Spells

variable {f g : Template} {ts us : List String} {text : String}

theorem unique (ht : f.Spells ts text) (hu : f.Spells us text) (clear : f.isClear = true) :
    ts = us :=
  map_toList_inj (fill_inj clear ht.fits hu.fits (ht.toList_eq.symm.trans hu.toList_eq))

theorem unique_of_reverse (ht : f.Spells ts text) (hu : f.Spells us text)
    (clear : isClear f.reverse = true) : ts = us :=
  map_toList_inj (fill_inj_of_reverse clear ht.fits hu.fits (ht.toList_eq.symm.trans hu.toList_eq))

theorem not_diverges_reverse (ht : f.Spells ts text) (hu : g.Spells us text) :
    ¬diverges f.reverse g.reverse = true := fun h =>
  fill_ne_of_diverges_reverse h ht.fits hu.fits (ht.toList_eq.symm.trans hu.toList_eq)

end Spells

end Template

end Segmentation
