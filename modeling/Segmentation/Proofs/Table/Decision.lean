import Segmentation.Bench
import Segmentation.Proofs.Table.Reachable

namespace Segmentation

theorem Selector.raw_eq_mul_iff (s : Selector) (i : Nat) :
    s.raw.toNat = 8 * i ↔ s.isGlobal = true ∧ s.rpl = .ring0 ∧ s.index = i := by
  constructor
  · intro h
    have hbits : s.raw.toNat % 4 = 0 := by omega
    refine ⟨s.isGlobal_iff.mpr (by omega), ?_, by rw [s.index_eq]; omega⟩
    simp [rpl, Privilege.ofBits, hbits]
  · rintro ⟨global, ring, rfl⟩
    exact raw_eq_of_ring0 global ring

namespace Table

def Selects (t : Table) (s : Selector) (kind : Descriptor → Bool) : Prop :=
  ∃ i d, 1 ≤ i ∧ i < t.len ∧ s.raw.toNat = 8 * i ∧ t.get? i = some d ∧ kind d = true ∧
    d.privilege = .ring0

/-- The selector is of a local table, or names the null entry, or lies past the last one. -/
def misses (t : Table) (s : Selector) : Bool :=
  s.raw.toNat.testBit 2 || s.raw.toNat / 8 = 0 || t.len ≤ s.raw.toNat / 8

def unfit (t : Table) (kind : Descriptor → Bool) (s : Selector) : Bool :=
  (t.get? (s.raw.toNat / 8)).any fun d => !kind d || d.privilege ≠ s.rpl

/-- All that may speak against a load, in the order in which it counts. -/
def objections (t : Table) (code data : Selector) : List (Bool × SegmentError) :=
  [(t.len ≤ 1, .notPopulated),
    (t.misses code, .selectorOutOfBounds code),
    (t.unfit Descriptor.isCode code, .notCodeSegment code),
    (t.misses data, .selectorOutOfBounds data),
    (t.unfit Descriptor.isData data, .notDataSegment data),
    (code.rpl ≠ .ring0, .notKernelSegment code),
    (data.rpl ≠ .ring0, .notKernelSegment data)]

def settle (os : List (Bool × SegmentError)) (a : α) : Except SegmentError α :=
  match os.find? (·.1) with
  | some o => .error o.2
  | none => .ok a

theorem settle_cons (b : Bool) (e : SegmentError) (os : List (Bool × SegmentError)) (a : α) :
    settle ((b, e) :: os) a = if b then .error e else settle os a := by
  cases b <;> rfl

theorem settle_bind (os os' : List (Bool × SegmentError)) (a : α) :
    (settle os () >>= fun _ => settle os' a) = settle (os ++ os') a := by
  induction os with
  | nil => rfl
  | cons o os ih =>
    obtain ⟨b, e⟩ := o
    rw [List.cons_append, settle_cons, settle_cons, ← ih]
    cases b <;> rfl

section Settle

variable {n : Capacity} {t : Table} {code data s : Selector}

theorem misses_eq_false_iff :
    t.misses s = false ↔ s.isGlobal = true ∧ s.index ≠ 0 ∧ s.index < t.len := by
  rw [s.isGlobal_iff, s.index_eq, misses, Nat.testBit_eq_decide_div_mod_eq]
  simp
  omega

theorem lookup_error {e : SegmentError} (h : t.lookup s = .error e) :
    e = .selectorOutOfBounds s := by
  unfold lookup at h
  split at h
  · cases h
    rfl
  · split at h
    · cases h
      rfl
    · cases h

theorem lookup_of_misses (h : t.misses s = true) :
    t.lookup s = .error (.selectorOutOfBounds s) := by
  cases hlookup : t.lookup s with
  | error e => rw [lookup_error hlookup]
  | ok d =>
    obtain ⟨global, index_ne, found⟩ := lookup_eq_ok_iff.mp hlookup
    rw [misses_eq_false_iff.mpr ⟨global, index_ne, index_lt_len found⟩] at h
    cases h

theorem lookup_of_not_misses (wf : t.WellFormed n) (h : t.misses s = false) :
    ∃ d, t.get? (s.raw.toNat / 8) = some d ∧ t.lookup s = .ok d := by
  obtain ⟨global, index_ne, within⟩ := misses_eq_false_iff.mp h
  obtain ⟨d, found⟩ := Option.isSome_iff_exists.mp ((wf.get?_isSome_iff s.index).mpr within)
  rw [← s.index_eq]
  exact ⟨d, found, lookup_eq_ok_iff.mpr ⟨global, index_ne, found⟩⟩

theorem requireKind_eq_settle (wf : t.WellFormed n) (kind : Descriptor → Bool)
    (refusal : Selector → SegmentError) :
    t.requireKind kind refusal s =
      settle [(t.misses s, .selectorOutOfBounds s), (t.unfit kind s, refusal s)] () := by
  rw [requireKind, settle_cons, settle_cons]
  cases missed : t.misses s with
  | true =>
    rw [lookup_of_misses missed]
    rfl
  | false =>
    obtain ⟨d, found, hlookup⟩ := lookup_of_not_misses wf missed
    rw [hlookup, unfit, found]
    change (if kind d && d.privilege = s.rpl then _ else _) =
      if !kind d || d.privilege ≠ s.rpl then _ else _
    by_cases ring : d.privilege = s.rpl <;> cases kind d <;> simp [ring] <;> rfl

theorem requireKernel_eq_settle :
    requireKernel s = settle [(s.rpl ≠ .ring0, .notKernelSegment s)] () := by
  rw [requireKernel, settle_cons]
  by_cases ring : s.rpl = .ring0 <;> simp [ring, settle]

theorem accept_eq_settle (wf : t.WellFormed n) (aligned : t.base.isAligned = true) :
    t.accept code data = settle (t.objections code data) ⟨code, data, t.pointer⟩ := by
  rw [accept, objections, settle_cons, requireAligned_eq_ok_iff.mpr aligned, requireCode,
    requireData, requireKind_eq_settle wf, requireKind_eq_settle wf, requireKernel_eq_settle,
    requireKernel_eq_settle]
  change (if t.len ≤ 1 then _ else
    (settle _ () >>= fun _ => settle _ () >>= fun _ => settle _ () >>= fun _ => settle _ () >>=
      fun _ => settle [] _)) = _
  rw [settle_bind, settle_bind, settle_bind, settle_bind]
  simp only [decide_eq_true_eq]
  rfl

theorem selects_iff (kind : Descriptor → Bool) :
    t.Selects s kind ↔ t.Names s kind ∧ s.rpl = .ring0 := by
  constructor
  · rintro ⟨i, d, pos, -, offset, found, hkind, hring⟩
    obtain ⟨global, ring, rfl⟩ := (s.raw_eq_mul_iff i).mp offset
    have index_ne : s.index ≠ 0 := by omega
    exact ⟨⟨d, lookup_eq_ok_iff.mpr ⟨global, index_ne, found⟩, hkind, hring.trans ring.symm⟩, ring⟩
  · rintro ⟨⟨d, hlookup, hkind, hring⟩, ring⟩
    obtain ⟨global, index_ne, found⟩ := lookup_eq_ok_iff.mp hlookup
    have offset := (s.raw_eq_mul_iff s.index).mpr ⟨global, ring, rfl⟩
    exact ⟨s.index, d, Nat.pos_of_ne_zero index_ne, index_lt_len found, offset, found, hkind,
      hring.trans ring⟩

theorem accept_ok_iff_selects (aligned : t.base.isAligned = true) :
    (∃ a, t.accept code data = .ok a) ↔
      1 < t.len ∧ t.Selects code Descriptor.isCode ∧ t.Selects data Descriptor.isData := by
  simp only [accept_eq_ok_iff, selects_iff]
  constructor
  · rintro ⟨a, len, -, hcode, hdata, codeRing, dataRing, -⟩
    exact ⟨len, ⟨hcode, codeRing⟩, hdata, dataRing⟩
  · rintro ⟨len, ⟨hcode, codeRing⟩, hdata, dataRing⟩
    exact ⟨_, len, aligned, hcode, hdata, codeRing, dataRing, rfl⟩

end Settle

end Table

variable {σ : Type} [Journal σ]

/-- A load as a decision. It looks at the slots and the length of the table and at the selectors,
and at nothing else. -/
structure DecidesLoad (loaders : Nat → Loader σ) (s : Table × σ) (k : Nat)
    (code data : Selector) : Prop where
  segments_iff : (∃ a, ((Action.load k code data).perform loaders s).1 = .segments a) ↔
    1 < s.1.len ∧ s.1.Selects code Descriptor.isCode ∧ s.1.Selects data Descriptor.isData
  answer_eq : ((Action.load k code data).perform loaders s).1 =
    match (s.1.objections code data).find? (·.1) with
    | some o => .refused o.2
    | none => .segments ⟨code, data, s.1.pointer⟩
  base_eq : s.1.pointer.base = s.1.base
  limit_eq : s.1.pointer.limit.toNat = 8 * s.1.len - 1
  independent : ∀ {τ : Type} [Journal τ] (others : Nat → Loader τ) (w : τ) (j : Nat) (b : Bool),
    ((Action.load j code data).perform others ({ s.1 with loaded := b }, w)).1 =
      ((Action.load k code data).perform loaders s).1

theorem load_decides {n : Capacity} {s : Table × σ} (h : s.1.Reachable n)
    (aligned : s.1.base.isAligned = true) (loaders : Nat → Loader σ) (k : Nat)
    (code data : Selector) : DecidesLoad loaders s k code data := by
  obtain ⟨t, w⟩ := s
  have wf : t.WellFormed n := h.wellFormed
  constructor
  · simp only [Action.load_segments_iff]
    exact Table.accept_ok_iff_selects aligned
  · rw [Action.perform_load, Table.accept_eq_settle wf aligned, Table.settle]
    cases (t.objections code data).find? (·.1) <;> rfl
  · rfl
  · exact Table.limit_pointer wf.len_pos wf.len_le_max
  · intro τ _ others w' j b
    rw [Action.perform_load, Action.perform_load, Table.accept_loaded]
    cases t.accept code data <;> rfl

theorem load_decides_user :
    let n : Capacity := ⟨8, by decide, by decide⟩
    let t := Table.writeAll (Table.flatWrites .longMode) (.new n (.table 0))
    t.Reachable n ∧ t.base.isAligned = true ∧
      DecidesLoad Bench.loader (t, .empty 1) 0 .userCode .userData ∧
      ((Action.load 0 .userCode .userData).perform Bench.loader (t, .empty 1)).1 =
        .refused (.notKernelSegment .userCode) := by
  intro n t
  have reachable : t.Reachable n := .kernel n (.table 0) .longMode (by decide)
  have decides : DecidesLoad Bench.loader (t, .empty 1) 0 .userCode .userData :=
    load_decides reachable rfl Bench.loader 0 .userCode .userData
  exact ⟨reachable, rfl, decides, decides.answer_eq.trans (by decide)⟩

end Segmentation
