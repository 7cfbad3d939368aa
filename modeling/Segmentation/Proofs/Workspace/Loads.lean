import Segmentation.Bench
import Segmentation.Proofs.Workspace.Step

namespace Segmentation.Workspace

variable {σ : Type}

theorem split_cons {as bs before after : List α} {c : α} (h : as ++ bs = before ++ c :: after) :
    (∃ later, as = before ++ c :: later ∧ after = later ++ bs) ∨
      ∃ earlier, before = as ++ earlier ∧ bs = earlier ++ c :: after := by
  rcases List.append_eq_append_iff.mp h with ⟨earlier, hbefore, hbs⟩ | ⟨later, has, hcons⟩
  · exact .inr ⟨earlier, hbefore, hbs⟩
  · cases later with
    | nil =>
      refine .inr ⟨[], ?_, hcons.symm⟩
      rw [has, List.append_nil, List.append_nil]
    | cons b later =>
      injection hcons with hb hafter
      rw [← hb] at has
      exact .inl ⟨later, has, hafter⟩

theorem loud_of_pair {quiet₁ quiet₂ before after : List Call} {c₁ c₂ c : Call}
    (h : quiet₁ ++ c₁ :: c₂ :: quiet₂ = before ++ c :: after) (loud : c.isQuiet = false)
    (h₁ : ∀ c ∈ quiet₁, c.isQuiet = true) (h₂ : ∀ c ∈ quiet₂, c.isQuiet = true) :
    (before = quiet₁ ∧ c = c₁ ∧ after = c₂ :: quiet₂) ∨
      (before = quiet₁ ++ [c₁] ∧ c = c₂ ∧ after = quiet₂) := by
  have not_mem {quiet : List Call} (hq : ∀ c ∈ quiet, c.isQuiet = true) : c ∉ quiet := by
    intro hc
    rw [hq c hc] at loud
    cases loud
  rcases split_cons h with ⟨later, rfl, -⟩ | ⟨earlier, rfl, hpair⟩
  · exact absurd (List.mem_append_right _ List.mem_cons_self) (not_mem h₁)
  · cases earlier with
    | nil =>
      injection hpair with hc hafter
      exact .inl ⟨List.append_nil _, hc.symm, hafter.symm⟩
    | cons b earlier =>
      injection hpair with hb hpair
      cases earlier with
      | nil =>
        injection hpair with hc hafter
        exact .inr ⟨congrArg (fun b => quiet₁ ++ [b]) hb.symm, hc.symm, hafter.symm⟩
      | cons b' earlier =>
        injection hpair with _ hquiet
        rw [hquiet] at h₂
        exact absurd (List.mem_append_right _ List.mem_cons_self) (not_mem h₂)

inductive Hears (s : Workspace σ) (op : Operation) (cs : List Call) : Prop
  | quiet (quiet : ∀ c ∈ cs, c.isQuiet = true)
  | loaded {i k : Nat} {a : Action} {t : Table} {code data : Selector} {before after : List Call}
      (op_eq : op = a.toOperation i) (found : s.tables[i]? = some t) (asks : a.Asks k code data)
      (code_loadable : t.Loadable code Descriptor.RunsKernel)
      (data_loadable : t.Loadable data Descriptor.HoldsKernel)
      (calls : cs = before ++ .loadTable k t.pointer :: .reloadSegments k code data :: after)
      (quiet_before : ∀ c ∈ before, c.isQuiet = true)
      (quiet_after : ∀ c ∈ after, c.isQuiet = true)

theorem hears_moment {s : Workspace σ} {i : Nat} {m : Moment} {t : Table} {n : Capacity}
    (leads : m.Leads t) (wf : m.table.WellFormed n) (found : s.tables[i]? = some m.table) :
    s.Hears (m.action.toOperation i) m.calls := by
  cases leads with
  | refused answer quiet => exact .quiet quiet
  | wrote written pos lt quiet => exact .quiet quiet
  | handed asks accepted calls quiet answer =>
    obtain ⟨hs, code_loadable, data_loadable⟩ := Table.accept_loadable wf.len_le_max accepted
    have hpointer := congrArg ActiveSegments.table hs
    rw [hpointer] at calls
    obtain ⟨quiet_before, quiet_after⟩ := List.forall_mem_append.mp quiet
    exact .loaded rfl found asks code_loadable data_loadable calls quiet_before quiet_after

theorem Hears.loadTable {s : Workspace σ} {op : Operation} {before after : List Call} {k : Nat}
    {p : TablePointer} (h : s.Hears op (before ++ .loadTable k p :: after)) :
    ∃ i a t code data later, op = Action.toOperation i a ∧ s.tables[i]? = some t ∧
      a.Asks k code data ∧ p = t.pointer ∧ after = .reloadSegments k code data :: later ∧
      t.Loadable code Descriptor.RunsKernel ∧ t.Loadable data Descriptor.HoldsKernel := by
  cases h with
  | quiet quiet => cases quiet _ (List.mem_append_right _ List.mem_cons_self)
  | loaded op_eq found asks code_loadable data_loadable calls quiet_before quiet_after =>
    rcases loud_of_pair calls.symm rfl quiet_before quiet_after with ⟨-, hc, hafter⟩ | ⟨-, hc, -⟩
    · injection hc with hk hp
      rw [hk, hp]
      exact ⟨_, _, _, _, _, _, op_eq, found, asks, rfl, hafter, code_loadable, data_loadable⟩
    · cases hc

theorem Hears.reloadSegments {s : Workspace σ} {op : Operation} {before after : List Call}
    {k : Nat} {code data : Selector}
    (h : s.Hears op (before ++ .reloadSegments k code data :: after)) :
    ∃ earlier p, before = earlier ++ [.loadTable k p] := by
  cases h with
  | quiet quiet => cases quiet _ (List.mem_append_right _ List.mem_cons_self)
  | loaded op_eq found asks code_loadable data_loadable calls quiet_before quiet_after =>
    rcases loud_of_pair calls.symm rfl quiet_before quiet_after with ⟨-, hc, -⟩ | ⟨hbefore, hc, -⟩
    · cases hc
    · injection hc with hk
      rw [hk]
      exact ⟨_, _, hbefore⟩

variable [Journal σ]

def calls (loaders : Nat → Loader σ) (s : Workspace σ) (ops : List Operation) : List Call :=
  ((s.mapWorld .start).run (Loader.tapAll loaders) ops).world.calls

section Calls

variable (loaders : Nat → Loader σ) (s : Workspace σ)

theorem run_append (as bs : List Operation) :
    s.run loaders (as ++ bs) = (s.run loaders as).run loaders bs := List.foldl_append ..

theorem run_tapped (ops : List Operation) :
    (s.mapWorld .start).run (Loader.tapAll loaders) ops =
      ((s.run loaders ops).mapWorld .start).mapWorld (.after (s.calls loaders ops)) := by
  have hworld := run_mirrored (.world loaders) (s.mapWorld .start) ops
  change s.run loaders ops = _ at hworld
  rw [hworld]
  change _ = Workspace.mk _ (Tapped.mk _ (s.calls loaders ops ++ []))
  rw [List.append_nil]
  rfl

theorem calls_append (as bs : List Operation) :
    s.calls loaders (as ++ bs) = s.calls loaders as ++ (s.run loaders as).calls loaders bs := by
  rw [calls, run_append, run_tapped, run_mirrored (.after loaders _)]
  rfl

theorem calls_cons (op : Operation) (ops : List Operation) :
    s.calls loaders (op :: ops) =
      s.calls loaders [op] ++ (s.perform loaders op).2.calls loaders ops :=
  s.calls_append loaders [op] ops

theorem calls_split {ops : List Operation} {before after : List Call} {c : Call}
    (h : s.calls loaders ops = before ++ c :: after) :
    ∃ past op rest earlier later, ops = past ++ op :: rest ∧
      before = s.calls loaders past ++ earlier ∧ later <+: after ∧
      (s.run loaders past).calls loaders [op] = earlier ++ c :: later := by
  induction ops generalizing s before with
  | nil =>
    exact absurd h.symm
      (List.append_ne_nil_of_right_ne_nil before (List.cons_ne_nil c after))
  | cons op ops ih =>
    rw [calls_cons] at h
    rcases split_cons h with ⟨later, hop, hafter⟩ | ⟨earlier, hbefore, hops⟩
    · exact ⟨[], op, ops, before, later, rfl, rfl, ⟨_, hafter.symm⟩, hop⟩
    · obtain ⟨past, op', rest, earlier', later, rfl, rfl, hlater, hop⟩ := ih _ hops
      refine ⟨op :: past, op', rest, earlier', later, rfl, ?_, hlater, hop⟩
      rw [hbefore, calls_cons loaders s op past, List.append_assoc]

end Calls

theorem quiet_records (records : List Record) :
    ∀ c ∈ records.map Call.log, c.isQuiet = true := by
  intro c hc
  obtain ⟨r, -, rfl⟩ := List.mem_map.mp hc
  rfl

theorem Leads.hears {loaders : Nat → Loader σ} {s : Workspace σ} {op : Operation}
    {s' : Workspace (Tapped σ)} (wf : s.WellFormed)
    (h : (s.mapWorld .start).Leads (Loader.tapAll loaders) op s') :
    s.Hears op s'.world.calls := by
  cases h with
  | heard records =>
    rw [Journal.calls_logAll]
    exact .quiet (quiet_records records)
  | made origin records =>
    rw [Journal.calls_logAll]
    exact .quiet (quiet_records records)
  | acted a found =>
    obtain ⟨n, hn⟩ := wf _ (List.mem_of_getElem? found)
    have leads := Segmentation.leads_perform hn loaders s.world a
    exact hears_moment leads hn found

theorem hears_calls {s : Workspace σ} (wf : s.WellFormed) (loaders : Nat → Loader σ)
    (op : Operation) : s.Hears op (s.calls loaders [op]) :=
  (leads_perform (Loader.tapAll loaders) (s.mapWorld .start) op).hears wf

/-- The load that goes on once the calls `before` have been made in a run: the operation that asks
for it, and the table as the operation finds it. -/
inductive Underway (loaders : Nat → Loader σ) (s : Workspace σ) (ops : List Operation)
    (before : List Call) (k : Nat) (t : Table) (code data : Selector) : Prop
  | intro {past rest : List Operation} {i : Nat} {a : Action}
      (ops_eq : ops = past ++ a.toOperation i :: rest)
      (found : (s.run loaders past).tables[i]? = some t) (asks : a.Asks k code data)
      (begun : s.calls loaders past <+: before)
      (ended : before ++ [.loadTable k t.pointer, .reloadSegments k code data] <+:
        s.calls loaders (past ++ [a.toOperation i]))

structure LoadsSafely (loaders : Nat → Loader σ) (s : Workspace σ) (ops : List Operation) :
    Prop where
  followed {before after : List Call} {k : Nat} {p : TablePointer}
    (h : s.calls loaders ops = before ++ .loadTable k p :: after) :
    ∃ t code data later, after = .reloadSegments k code data :: later ∧ p = t.pointer ∧
      s.Underway loaders ops before k t code data ∧
      t.Loadable code Descriptor.RunsKernel ∧ t.Loadable data Descriptor.HoldsKernel
  preceded {before after : List Call} {k : Nat} {code data : Selector}
    (h : s.calls loaders ops = before ++ .reloadSegments k code data :: after) :
    ∃ earlier p, before = earlier ++ [.loadTable k p]

theorem run_loadsSafely (loaders : Nat → Loader σ) (w : σ) (ops : List Operation) :
    (empty w).LoadsSafely loaders ops := by
  have wf (past : List Operation) : ((empty w).run loaders past).WellFormed :=
    WellFormed.run (fun _ h => absurd h List.not_mem_nil) loaders past
  constructor
  · intro before after k p h
    obtain ⟨past, op, rest, earlier, later, rfl, rfl, ⟨others, rfl⟩, hop⟩ := calls_split loaders _ h
    have hears := hears_calls (wf past) loaders op
    rw [hop] at hears
    obtain ⟨i, a, t, code, data, later, rfl, found, asks, rfl, rfl, code_loadable, data_loadable⟩ :=
      hears.loadTable
    refine ⟨t, code, data, later ++ others, rfl, rfl, ?_, code_loadable, data_loadable⟩
    refine .intro rfl found asks (List.prefix_append ..) ⟨later, ?_⟩
    rw [calls_append, hop]
    simp only [List.append_assoc, List.cons_append, List.nil_append]
  · intro before after k code data h
    obtain ⟨past, op, rest, earlier, later, -, rfl, -, hop⟩ := calls_split loaders _ h
    have hears := hears_calls (wf past) loaders op
    rw [hop] at hears
    obtain ⟨first, p, rfl⟩ := hears.reloadSegments
    exact ⟨_, p, (List.append_assoc ..).symm⟩

example :
    ((empty (Bench.empty 2)).calls Bench.loader
      [.createKernel ⟨8, by decide, by decide⟩ .longMode, .load 0 1 .kernelCode .userData,
        .load 0 1 .kernelCode .kernelData]).filter (! ·.isQuiet) =
      [.loadTable 1 ⟨.table 0, 39⟩, .reloadSegments 1 .kernelCode .kernelData] := by
  decide

end Segmentation.Workspace
