import Segmentation.Proofs.Table.Reachable

namespace Segmentation

def Action.toOperation (table : Nat) : Action → Operation
  | .push d => .push table d
  | .set index d => .set table index d
  | .load loader code data => .load table loader code data
  | .install loader => .install table loader

namespace Workspace

variable {σ τ : Type}

def mapWorld (f : τ → σ) (s : Workspace τ) : Workspace σ := ⟨s.tables, f s.world⟩

@[simp] theorem tables_mapWorld (f : τ → σ) (s : Workspace τ) :
    (s.mapWorld f).tables = s.tables := rfl

@[simp] theorem world_mapWorld (f : τ → σ) (s : Workspace τ) :
    (s.mapWorld f).world = f s.world := rfl

@[simp] theorem nextBase_mapWorld (f : τ → σ) (s : Workspace τ) :
    (s.mapWorld f).nextBase = s.nextBase := rfl

def put (s : Workspace σ) (k : Nat) (r : Answer × Table × σ) : Answer × Workspace σ :=
  (r.1, ⟨s.tables.set k r.2.1, r.2.2⟩)

theorem onTable_eq (s : Workspace σ) (k : Nat) (x : TableM σ α) (answer : α → Answer) :
    s.onTable k x answer =
      match s.tables[k]? with
      | none => (.noTable, s)
      | some t => s.put k (Action.reply answer (x (t, s.world))) := by
  rw [onTable]
  cases s.tables[k]? with
  | none => rfl
  | some t =>
    change _ = s.put k (Action.reply answer (x (t, s.world)))
    dsimp only
    cases x (t, s.world) <;> rfl

variable [Journal σ] [Journal τ]

theorem perform_toOperation (loaders : Nat → Loader σ) (s : Workspace σ) (k : Nat) (a : Action) :
    s.perform loaders (a.toOperation k) =
      match s.tables[k]? with
      | none => (.noTable, s)
      | some t => s.put k (a.perform loaders (t, s.world)) := by
  cases a with
  | push d => exact s.onTable_eq k (Table.push d) .index
  | set index d => exact s.onTable_eq k (Table.set index d) fun _ => .done
  | load l code data => exact s.onTable_eq k (Table.load (loaders l) code data) .segments
  | install l => exact s.onTable_eq k (Table.install (loaders l)) .segments

inductive Leads (loaders : Nat → Loader σ) (s : Workspace σ) : Operation → Workspace σ → Prop
  | heard {op : Operation} (records : List Record) :
      Leads loaders s op ⟨s.tables, Journal.logAll records s.world⟩
  | made {op : Operation} {n : Capacity} {base : Address} {entries : List Descriptor} {t : Table}
      (origin : t.Origin n base entries) (records : List Record) :
      Leads loaders s op ⟨s.tables ++ [t], Journal.logAll records s.world⟩
  | acted {k : Nat} {t : Table} (a : Action) (found : s.tables[k]? = some t) :
      Leads loaders s (a.toOperation k) (s.put k (a.perform loaders (t, s.world))).2

theorem leads_toOperation (loaders : Nat → Loader σ) (s : Workspace σ) (k : Nat) (a : Action) :
    s.Leads loaders (a.toOperation k) (s.perform loaders (a.toOperation k)).2 := by
  rw [perform_toOperation]
  cases found : s.tables[k]? with
  | none => exact .heard []
  | some t => exact .acted a found

theorem leads_perform (loaders : Nat → Loader σ) (s : Workspace σ) (op : Operation) :
    s.Leads loaders op (s.perform loaders op).2 := by
  cases op with
  | create n => exact .made .fresh []
  | adopt n entries =>
    rw [perform]
    cases made : Table.ofEntries n s.nextBase entries with
    | error e => exact .heard []
    | ok t => exact .made (.adopted made) []
  | createKernel n m =>
    rw [perform]
    rcases Table.kernel_cases n s.nextBase m s.world with ⟨records, made, -⟩ | ⟨e, records, h, -⟩
    · rw [made]
      exact .made (.kernel made) records
    · rw [h]
      exact .heard records
  | push k d => exact s.leads_toOperation loaders k (.push d)
  | set k index d => exact s.leads_toOperation loaders k (.set index d)
  | load k l code data => exact s.leads_toOperation loaders k (.load l code data)
  | install k l => exact s.leads_toOperation loaders k (.install l)

section Tables

variable {P : Table → Prop} {loaders : Nat → Loader σ}

theorem Leads.forall_tables
    (made : ∀ {n base entries t}, Table.Origin n base entries t → P t)
    (acted : ∀ {t} (w : σ) (a : Action), P t → P (a.perform loaders (t, w)).2.1)
    {s s' : Workspace σ} {op : Operation} (h : s.Leads loaders op s') (hs : ∀ t ∈ s.tables, P t) :
    ∀ t ∈ s'.tables, P t := by
  cases h with
  | heard records => exact hs
  | made origin records =>
    intro t ht
    rcases List.mem_append.mp ht with old | new
    · exact hs t old
    · rw [List.mem_singleton.mp new]
      exact made origin
  | acted a found =>
    intro t ht
    rcases List.mem_or_eq_of_mem_set ht with old | rfl
    · exact hs t old
    · exact acted s.world a (hs _ (List.mem_of_getElem? found))

theorem forall_tables_run
    (made : ∀ {n base entries t}, Table.Origin n base entries t → P t)
    (acted : ∀ {t} (w : σ) (a : Action), P t → P (a.perform loaders (t, w)).2.1)
    {s : Workspace σ} (hs : ∀ t ∈ s.tables, P t) (ops : List Operation) :
    ∀ t ∈ (s.run loaders ops).tables, P t := by
  induction ops generalizing s with
  | nil => exact hs
  | cons op ops ih => exact ih ((s.leads_perform loaders op).forall_tables made acted hs)

end Tables

def WellFormed (s : Workspace σ) : Prop := ∀ t ∈ s.tables, ∃ n, t.WellFormed n

theorem WellFormed.run {s : Workspace σ} (wf : s.WellFormed) (loaders : Nat → Loader σ)
    (ops : List Operation) : (s.run loaders ops).WellFormed :=
  forall_tables_run (fun origin => ⟨_, origin.wellFormed⟩)
    (fun w a ⟨n, hn⟩ => ⟨n, (Segmentation.leads_perform hn loaders w a).wellFormed hn⟩) wf ops

theorem reachable_run (loaders : Nat → Loader σ) (w : σ) (ops : List Operation) :
    ∀ t ∈ ((empty w).run loaders ops).tables, ∃ n, t.Reachable n :=
  forall_tables_run (fun origin => ⟨_, .made origin⟩)
    (fun w a ⟨n, hn⟩ => ⟨n, hn.acted loaders w a⟩) (fun _ h => absurd h List.not_mem_nil) ops

section Mirrored

variable {f : τ → σ} {inner : Nat → Loader τ} {outer : Nat → Loader σ}

theorem toOperation_mirrored (h : Mirrors f inner outer) (s : Workspace τ) (k : Nat) (a : Action) :
    (s.mapWorld f).perform outer (a.toOperation k) =
      ((s.perform inner (a.toOperation k)).1,
        (s.perform inner (a.toOperation k)).2.mapWorld f) := by
  rw [perform_toOperation, perform_toOperation, tables_mapWorld]
  cases s.tables[k]? with
  | none => rfl
  | some t => exact congrArg ((s.mapWorld f).put k) (a.perform_mirrored h t s.world)

theorem perform_mirrored (h : Mirrors f inner outer) (s : Workspace τ) (op : Operation) :
    (s.mapWorld f).perform outer op =
      ((s.perform inner op).1, (s.perform inner op).2.mapWorld f) := by
  cases op with
  | create n => rfl
  | adopt n entries =>
    rw [perform, perform, nextBase_mapWorld]
    cases Table.ofEntries n s.nextBase entries <;> rfl
  | createKernel n m =>
    rw [perform, perform, nextBase_mapWorld, world_mapWorld]
    by_cases hroom : 5 ≤ n.slots
    · rw [Table.kernel_of_le n _ m _ hroom, Table.kernel_of_le n _ m _ hroom, ← h.logAll]
      rfl
    · have hroom := Nat.lt_of_not_le hroom
      rw [Table.kernel_of_lt n _ m _ hroom, Table.kernel_of_lt n _ m _ hroom, ← h.logAll]
      rfl
  | push k d => exact toOperation_mirrored h s k (.push d)
  | set k index d => exact toOperation_mirrored h s k (.set index d)
  | load k l code data => exact toOperation_mirrored h s k (.load l code data)
  | install k l => exact toOperation_mirrored h s k (.install l)

theorem run_mirrored (h : Mirrors f inner outer) (s : Workspace τ) (ops : List Operation) :
    (s.mapWorld f).run outer ops = (s.run inner ops).mapWorld f := by
  induction ops generalizing s with
  | nil => rfl
  | cons op ops ih =>
    change run outer ((s.mapWorld f).perform outer op).2 ops = _
    rw [perform_mirrored h]
    exact ih _

end Mirrored

end Workspace

end Segmentation
