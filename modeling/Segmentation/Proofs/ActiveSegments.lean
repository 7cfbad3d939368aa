import Segmentation.ActiveSegments

namespace Segmentation

def SegmentError.isMismatch : SegmentError → Bool
  | .selectorMismatch _ _ _ => true
  | .tablePointerMismatch _ _ => true
  | _ => false

def SegmentError.exchanged : SegmentError → SegmentError
  | .selectorMismatch register expected found => .selectorMismatch register found expected
  | .tablePointerMismatch expected found => .tablePointerMismatch found expected
  | e => e

namespace ActiveSegments

/-- The report on the first part that differs: CS comes before DS, and DS before the table. -/
inductive FirstDifference (expected observed : ActiveSegments) : SegmentError → Prop
  | code (differs : expected.code ≠ observed.code) :
    FirstDifference expected observed (.selectorMismatch "CS" expected.code observed.code)
  | data (code : expected.code = observed.code) (differs : expected.data ≠ observed.data) :
    FirstDifference expected observed (.selectorMismatch "DS" expected.data observed.data)
  | table (code : expected.code = observed.code) (data : expected.data = observed.data)
      (differs : expected.table.base ≠ observed.table.base ∨
        expected.table.limit ≠ observed.table.limit) :
    FirstDifference expected observed (.tablePointerMismatch expected.table observed.table)

variable {expected observed : ActiveSegments} {e : SegmentError}

theorem check_eq_ok_iff : expected.check observed = .ok () ↔ observed = expected := by
  obtain ⟨code, data, table⟩ := expected
  obtain ⟨code', data', table'⟩ := observed
  simp only [check, mk.injEq]
  split
  · simp_all
  · split
    · simp_all
    · split <;> simp_all

theorem exists_error_of_ne (h : observed ≠ expected) : ∃ e, expected.check observed = .error e := by
  cases hcheck : expected.check observed with
  | error e => exact ⟨e, rfl⟩
  | ok _ => exact absurd (check_eq_ok_iff.mp hcheck) h

theorem check_of_code_ne (h : observed.code ≠ expected.code) :
    expected.check observed =
      .error (.selectorMismatch "CS" expected.code observed.code) := by
  rw [check, if_pos h]

theorem check_of_data_ne (code : observed.code = expected.code)
    (h : observed.data ≠ expected.data) :
    expected.check observed =
      .error (.selectorMismatch "DS" expected.data observed.data) := by
  rw [check, if_neg (not_not_intro code), if_pos h]

theorem check_of_table_ne (code : observed.code = expected.code)
    (data : observed.data = expected.data) (h : observed.table ≠ expected.table) :
    expected.check observed =
      .error (.tablePointerMismatch expected.table observed.table) := by
  rw [check, if_neg (not_not_intro code), if_neg (not_not_intro data), if_pos h]

theorem table_ne_iff : observed.table ≠ expected.table ↔
    expected.table.base ≠ observed.table.base ∨ expected.table.limit ≠ observed.table.limit := by
  obtain ⟨_, _, ⟨base, limit⟩⟩ := expected
  obtain ⟨_, _, ⟨base', limit'⟩⟩ := observed
  rw [ne_eq, TablePointer.mk.injEq, Decidable.not_and_iff_not_or_not, eq_comm, @eq_comm _ limit']

theorem exists_firstDifference (h : observed ≠ expected) :
    ∃ e, FirstDifference expected observed e := by
  by_cases code : expected.code = observed.code
  · by_cases data : expected.data = observed.data
    · have table : observed.table ≠ expected.table := fun table => h <| by
        cases expected
        cases observed
        cases code
        cases data
        cases table
        rfl
      exact ⟨_, .table code data (table_ne_iff.mp table)⟩
    · exact ⟨_, .data code data⟩
  · exact ⟨_, .code code⟩

namespace FirstDifference

theorem check_eq (h : FirstDifference expected observed e) :
    expected.check observed = .error e := by
  cases h with
  | code differs => exact check_of_code_ne differs.symm
  | data code differs => exact check_of_data_ne code.symm differs.symm
  | table code data differs =>
    exact check_of_table_ne code.symm data.symm (table_ne_iff.mpr differs)

theorem exchange (h : FirstDifference expected observed e) :
    FirstDifference observed expected e.exchanged := by
  cases h with
  | code differs => exact .code differs.symm
  | data code differs => exact .data code.symm differs.symm
  | table code data differs => exact .table code.symm data.symm (differs.imp .symm .symm)

theorem exchanged_ne (h : FirstDifference expected observed e) : e.exchanged ≠ e := by
  cases h with
  | code differs => simp [SegmentError.exchanged, differs.symm]
  | data code differs => simp [SegmentError.exchanged, differs.symm]
  | table code data differs => simp [SegmentError.exchanged, table_ne_iff.mpr differs]

theorem isMismatch (h : FirstDifference expected observed e) : e.isMismatch = true := by
  cases h <;> rfl

end FirstDifference

theorem check_eq_error_iff : expected.check observed = .error e ↔
    FirstDifference expected observed e := by
  refine ⟨fun h => ?_, FirstDifference.check_eq⟩
  by_cases same : observed = expected
  · rw [check_eq_ok_iff.mpr same] at h
    cases h
  · obtain ⟨e', first⟩ := exists_firstDifference same
    rw [first.check_eq] at h
    cases h
    exact first

theorem isMismatch_of_check (h : expected.check observed = .error e) : e.isMismatch = true :=
  (check_eq_error_iff.mp h).isMismatch

theorem check_exchange (expected observed : ActiveSegments) :
    observed.check expected = (expected.check observed).mapError SegmentError.exchanged := by
  by_cases same : observed = expected
  · rw [check_eq_ok_iff.mpr same, check_eq_ok_iff.mpr same.symm]
    rfl
  · obtain ⟨e, first⟩ := exists_firstDifference same
    rw [first.check_eq, first.exchange.check_eq]
    rfl

theorem eq_iff_parts : observed = expected ↔
    expected.code = observed.code ∧ expected.data = observed.data ∧
      expected.table.base = observed.table.base ∧ expected.table.limit = observed.table.limit := by
  obtain ⟨code, data, ⟨base, limit⟩⟩ := expected
  obtain ⟨code', data', ⟨base', limit'⟩⟩ := observed
  simp [eq_comm]

theorem check_tells (expected observed : ActiveSegments) :
    (expected.check observed = .ok () ↔
      expected.code = observed.code ∧ expected.data = observed.data ∧
        expected.table.base = observed.table.base ∧
          expected.table.limit = observed.table.limit) ∧
    (∀ e, expected.check observed = .error e ↔
      FirstDifference expected observed e ∧ e.exchanged ≠ e) ∧
    observed.check expected = (expected.check observed).mapError SegmentError.exchanged := by
  refine ⟨check_eq_ok_iff.trans eq_iff_parts, fun e => ?_, check_exchange expected observed⟩
  rw [check_eq_error_iff]
  exact ⟨fun first => ⟨first, first.exchanged_ne⟩, And.left⟩

end ActiveSegments

end Segmentation
