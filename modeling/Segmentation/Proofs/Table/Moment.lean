import Segmentation.Proofs.Table.Action

/-! Runs of a program on a table, moment by moment. What a moment leads to is told by what can be
seen of it from outside: the answer, and the calls to the log and to the loaders. -/

namespace Segmentation

variable {σ : Type} [Journal σ]

structure Moment where
  table : Table
  action : Action
  answer : Answer
  calls : List Call

namespace Moment

def written? (m : Moment) : Option (Nat × Descriptor) := m.action.written? m.answer

def handed? (m : Moment) : Option TablePointer := m.calls.findSome? Call.pointer?

def IsQuiet (m : Moment) : Prop := ∀ c ∈ m.calls, c.isQuiet = true

/-- All that can come of an action. A load that the loader got to see may still be refused, but
only by the check that follows an installation. -/
inductive Leads (m : Moment) : Table → Prop
  | refused {e : SegmentError} (answer : m.answer = .refused e) (quiet : m.IsQuiet) :
      Leads m m.table
  | wrote {index : Nat} {d : Descriptor} (written : m.written? = some (index, d))
      (pos : 0 < index) (lt : index < m.table.capacity) (quiet : m.IsQuiet) :
      Leads m (m.table.write index d)
  | handed {k : Nat} {s : ActiveSegments} {before after : List Call}
      (asks : m.action.Asks k s.code s.data) (accepted : m.table.accept s.code s.data = .ok s)
      (calls : m.calls =
        before ++ .loadTable k s.table :: .reloadSegments k s.code s.data :: after)
      (quiet : ∀ c ∈ before ++ after, c.isQuiet = true)
      (answer : m.answer = .segments s ∨ m.action = .install k) :
      Leads m m.table.markLoaded

end Moment

def Action.moment (loaders : Nat → Loader σ) (a : Action) (s : Table × σ) : Moment :=
  let r := a.perform (Loader.tapAll loaders) (s.1, .start s.2)
  ⟨s.1, a, r.1, r.2.2.calls⟩

def Action.history (loaders : Nat → Loader σ) : Table × σ → List Action → List Moment
  | _, [] => []
  | s, a :: as => a.moment loaders s :: history loaders (a.perform loaders s).2 as

section Tapped

variable (loaders : Nat → Loader σ)

theorem calls_announced (t : Table) (w : Tapped σ) :
    (t.announced w).calls = w.calls ++ [.log (.loading t), .log (.drawn t)] :=
  List.append_assoc ..

theorem calls_handTo (s : ActiveSegments) (k : Nat) (w : Tapped σ) :
    (s.handTo (Loader.tapAll loaders k) w).calls =
      w.calls ++ [.loadTable k s.table, .reloadSegments k s.code s.data, .log (.loaded s)] := by
  change w.calls ++ [_] ++ [_] ++ [_] = _
  rw [List.append_assoc, List.append_assoc]
  rfl

theorem calls_readBack (k : Nat) (w : Tapped σ) :
    (ActiveSegments.readBack (Loader.tapAll loaders k) w).calls =
      w.calls ++ [.active k, .log (.observed ((Loader.tapAll loaders k).active w).1)] :=
  List.append_assoc ..

theorem perform_tapped {a : Action} {t t' : Table} {w : σ} {w' : Tapped σ} {answer : Answer}
    (h : a.perform (Loader.tapAll loaders) (t, .start w) = (answer, t', w')) :
    a.perform loaders (t, w) = (answer, t', w'.world) ∧
      a.moment loaders (t, w) = ⟨t, a, answer, w'.calls⟩ := by
  constructor
  · have hworld := a.perform_mirrored (.world loaders) t (.start w)
    rw [h] at hworld
    exact hworld
  · rw [Action.moment, h]

variable {loaders : Nat → Loader σ} {t : Table} {w : σ}

theorem leads_refused {a : Action} {w' : Tapped σ} {e : SegmentError}
    (h : a.perform (Loader.tapAll loaders) (t, .start w) = (.refused e, t, w'))
    (quiet : ∀ c ∈ w'.calls, c.isQuiet = true) :
    (a.moment loaders (t, w)).Leads (a.perform loaders (t, w)).2.1 := by
  obtain ⟨hperform, hmoment⟩ := perform_tapped loaders h
  rw [hperform, hmoment]
  exact .refused rfl quiet

theorem leads_wrote {a : Action} {answer : Answer} {index : Nat} {d : Descriptor}
    (h : a.perform (Loader.tapAll loaders) (t, .start w) =
      (answer, t.write index d, Journal.log (.written index d) (.start w)))
    (written : a.written? answer = some (index, d)) (pos : 0 < index) (lt : index < t.capacity) :
    (a.moment loaders (t, w)).Leads (a.perform loaders (t, w)).2.1 := by
  obtain ⟨hperform, hmoment⟩ := perform_tapped loaders h
  rw [hperform, hmoment]
  exact .wrote written pos lt (by simp [Moment.IsQuiet, Journal.log, Tapped.start, Call.isQuiet])

theorem leads_handed {a : Action} {answer : Answer} {k : Nat} {s : ActiveSegments}
    {w' : Tapped σ} {before after : List Call}
    (h : a.perform (Loader.tapAll loaders) (t, .start w) = (answer, t.markLoaded, w'))
    (asks : a.Asks k s.code s.data) (accepted : t.accept s.code s.data = .ok s)
    (calls : w'.calls =
      before ++ .loadTable k s.table :: .reloadSegments k s.code s.data :: after)
    (quiet : ∀ c ∈ before ++ after, c.isQuiet = true)
    (told : answer = .segments s ∨ a = .install k) :
    (a.moment loaders (t, w)).Leads (a.perform loaders (t, w)).2.1 := by
  obtain ⟨hperform, hmoment⟩ := perform_tapped loaders h
  rw [hperform, hmoment]
  exact .handed asks accepted calls quiet told

theorem leads_set {n : Capacity} (h : t.WellFormed n) (index : Nat) (d : Descriptor) :
    ((Action.set index d).moment loaders (t, w)).Leads
      ((Action.set index d).perform loaders (t, w)).2.1 := by
  have hperform := Action.perform_set (Loader.tapAll loaders) t (.start w) h index d
  split at hperform
  · exact leads_refused hperform nofun
  · next hzero =>
    split at hperform
    · exact leads_refused hperform nofun
    · next hlt =>
      rw [← h.capacity_eq] at hlt
      exact leads_wrote hperform rfl (Nat.pos_of_ne_zero hzero) (Nat.lt_of_not_le hlt)

theorem leads_push {n : Capacity} (h : t.WellFormed n) (d : Descriptor) :
    ((Action.push d).moment loaders (t, w)).Leads
      ((Action.push d).perform loaders (t, w)).2.1 := by
  have hperform := Action.perform_push (Loader.tapAll loaders) t (.start w) h d
  split at hperform
  · exact leads_refused hperform nofun
  · next hlt =>
    have written := congrArg (fun index => some (index, d)) h.toNat_len
    rw [← h.capacity_eq] at hlt
    exact leads_wrote hperform written h.len_pos (Nat.lt_of_not_le hlt)

theorem leads_load (k : Nat) (code data : Selector) :
    ((Action.load k code data).moment loaders (t, w)).Leads
      ((Action.load k code data).perform loaders (t, w)).2.1 := by
  have hperform := Action.perform_load (Loader.tapAll loaders) t (.start w) k code data
  cases h : t.accept code data with
  | error e =>
    rw [h] at hperform
    exact leads_refused hperform nofun
  | ok s =>
    rw [h] at hperform
    have hcalls : (s.handTo (Loader.tapAll loaders k) (.start w)).calls =
        [] ++ .loadTable k s.table :: .reloadSegments k s.code s.data :: [.log (.loaded s)] :=
      calls_handTo loaders s k (.start w)
    obtain ⟨asks, accepted⟩ := Table.accept_segments h
    exact leads_handed hperform ⟨rfl, asks⟩ accepted hcalls (by simp [Call.isQuiet]) (.inl rfl)

theorem calls_install (s : ActiveSegments) (k : Nat) :
    (ActiveSegments.readBack (Loader.tapAll loaders k)
        (s.handTo (Loader.tapAll loaders k) (t.announced (.start w)))).calls =
      [.log (.loading t), .log (.drawn t)] ++ .loadTable k s.table ::
        .reloadSegments k s.code s.data :: [.log (.loaded s), .active k, .log (.observed
          ((Loader.tapAll loaders k).active
            (s.handTo (Loader.tapAll loaders k) (t.announced (.start w)))).1)] := by
  rw [calls_readBack, calls_handTo, calls_announced]
  rfl

theorem leads_install (k : Nat) :
    ((Action.install k).moment loaders (t, w)).Leads
      ((Action.install k).perform loaders (t, w)).2.1 := by
  cases h : t.accept .kernelCode .kernelData with
  | error e =>
    have hperform := Action.perform_install_refused (Loader.tapAll loaders) (.start w) k h
    exact leads_refused hperform (by simp [calls_announced, Tapped.start, Call.isQuiet])
  | ok s =>
    have hperform := Action.perform_install_accepted (Loader.tapAll loaders) (.start w) k h
    have hcalls := @calls_install _ _ loaders t w s k
    obtain ⟨asks, accepted⟩ := Table.accept_segments h
    dsimp only at hperform
    split at hperform
    · exact leads_handed hperform ⟨rfl, asks⟩ accepted hcalls (by simp [Call.isQuiet]) (.inr rfl)
    · have hverified := congrArg (· ++ [Call.log .verified]) hcalls
      rw [List.append_assoc] at hverified
      exact leads_handed hperform ⟨rfl, asks⟩ accepted hverified (by simp [Call.isQuiet])
        (.inr rfl)

end Tapped

theorem leads_perform {n : Capacity} {t : Table} (h : t.WellFormed n)
    (loaders : Nat → Loader σ) (w : σ) (a : Action) :
    (a.moment loaders (t, w)).Leads (a.perform loaders (t, w)).2.1 := by
  cases a with
  | push d => exact leads_push h d
  | set index d => exact leads_set h index d
  | load k code data => exact leads_load k code data
  | install k => exact leads_install k

theorem Action.answer_moment (loaders : Nat → Loader σ) (a : Action) (s : Table × σ) :
    (a.moment loaders s).answer = (a.perform loaders s).1 := by
  have h := a.perform_mirrored (.world loaders) s.1 (.start s.2)
  exact congrArg (·.1) h.symm

theorem Action.run_append (loaders : Nat → Loader σ) (s : Table × σ) (as bs : List Action) :
    run loaders s (as ++ bs) = run loaders (run loaders s as) bs :=
  List.foldl_append ..

theorem Action.run_concat (loaders : Nat → Loader σ) (s : Table × σ) (as : List Action)
    (a : Action) : run loaders s (as ++ [a]) = (a.perform loaders (run loaders s as)).2 :=
  run_append loaders s as [a]

theorem Action.history_append (loaders : Nat → Loader σ) (s : Table × σ) (as bs : List Action) :
    history loaders s (as ++ bs) =
      history loaders s as ++ history loaders (run loaders s as) bs := by
  induction as generalizing s with
  | nil => rfl
  | cons a as ih => exact congrArg _ (ih _)

theorem Action.history_concat (loaders : Nat → Loader σ) (s : Table × σ) (as : List Action)
    (a : Action) :
    history loaders s (as ++ [a]) =
      history loaders s as ++ [a.moment loaders (run loaders s as)] :=
  history_append loaders s as [a]

namespace Moment

variable {m : Moment} {t : Table} {n : Capacity}

theorem handed?_of_isQuiet (h : m.IsQuiet) : m.handed? = none :=
  List.findSome?_eq_none_iff.mpr fun c hc => Call.pointer?_of_isQuiet (h c hc)

theorem written?_of_refused {e : SegmentError} (h : m.answer = .refused e) : m.written? = none := by
  rw [written?, h]
  cases m.action <;> rfl

theorem written?_of_asks {k : Nat} {code data : Selector} (h : m.action.Asks k code data) :
    m.written? = none := by
  rw [written?]
  cases haction : m.action with
  | push d => rw [haction] at h; cases h
  | set index d => rw [haction] at h; cases h
  | load l c d => rfl
  | install l => rfl

theorem handed?_of_calls {k : Nat} {p : TablePointer} {before after : List Call}
    (calls : m.calls = before ++ .loadTable k p :: after)
    (quiet : ∀ c ∈ before, c.isQuiet = true) : m.handed? = some p := by
  have hbefore : before.findSome? Call.pointer? = none :=
    List.findSome?_eq_none_iff.mpr fun c hc => Call.pointer?_of_isQuiet (quiet c hc)
  rw [handed?, calls, List.findSome?_append, hbefore]
  rfl

theorem Leads.effect (h : m.Leads t) :
    (t = m.table ∧ m.written? = none ∧ m.handed? = none) ∨
      (∃ index d, t = m.table.write index d ∧ m.written? = some (index, d) ∧ m.handed? = none ∧
        0 < index ∧ index < m.table.capacity) ∨
      t = m.table.markLoaded ∧ m.written? = none ∧ m.handed? = some m.table.pointer ∧
        1 < m.table.len := by
  cases h with
  | refused answer quiet =>
    exact .inl ⟨rfl, written?_of_refused answer, handed?_of_isQuiet quiet⟩
  | wrote written pos lt quiet =>
    exact .inr (.inl ⟨_, _, rfl, written, handed?_of_isQuiet quiet, pos, lt⟩)
  | handed asks accepted calls quiet answer =>
    obtain ⟨populated, -, -, -, -, -, hs⟩ := Table.accept_eq_ok_iff.mp accepted
    have hpointer := congrArg ActiveSegments.table hs
    refine .inr (.inr ⟨rfl, written?_of_asks asks, ?_, populated⟩)
    rw [handed?_of_calls calls (List.forall_mem_append.mp quiet).1, hpointer]

theorem Leads.wellFormed (h : m.Leads t) (wf : m.table.WellFormed n) : t.WellFormed n := by
  rcases h.effect with ⟨rfl, -, -⟩ | ⟨index, d, rfl, -, -, pos, lt⟩ | ⟨rfl, -, -, populated⟩
  · exact wf
  · rw [wf.capacity_eq] at lt
    exact wf.write d pos lt
  · exact wf.markLoaded populated

theorem Leads.len_le (h : m.Leads t) : m.table.len ≤ t.len := by
  rcases h.effect with ⟨rfl, -⟩ | ⟨index, d, rfl, -⟩ | ⟨rfl, -⟩
  · exact Nat.le_refl _
  · exact Nat.le_max_left ..
  · exact Nat.le_refl _

theorem Leads.base_eq (h : m.Leads t) : t.base = m.table.base := by
  rcases h.effect with ⟨rfl, -⟩ | ⟨index, d, rfl, -⟩ | ⟨rfl, -⟩ <;> rfl

end Moment

namespace Table.WellFormed

variable {n : Capacity} {t : Table} {loaders : Nat → Loader σ} {as : List Action}

theorem run_keeps {P : Table → Prop}
    (step : ∀ {t : Table} (w : σ), ∀ a ∈ as, t.WellFormed n → P t →
      P (a.perform loaders (t, w)).2.1)
    (h : t.WellFormed n) (w : σ) (start : P t) : P (Action.run loaders (t, w) as).1 := by
  induction as generalizing t w with
  | nil => exact start
  | cons a as ih =>
    have next := (leads_perform h loaders w a).wellFormed h
    have later {t : Table} (w : σ) (b : Action) (mem : b ∈ as) := step (t := t) w b (.tail a mem)
    exact ih later next _ (step w a List.mem_cons_self h start)

theorem run (h : t.WellFormed n) (loaders : Nat → Loader σ) (w : σ) (as : List Action) :
    (Action.run loaders (t, w) as).1.WellFormed n := by
  have step {t : Table} (w : σ) (a : Action) (_ : a ∈ as) (wf : t.WellFormed n)
      (_ : t.WellFormed n) : (a.perform loaders (t, w)).2.1.WellFormed n :=
    (leads_perform wf loaders w a).wellFormed wf
  exact run_keeps step h w h

theorem len_le_run (h : t.WellFormed n) (loaders : Nat → Loader σ) (w : σ) (as : List Action) :
    t.len ≤ (Action.run loaders (t, w) as).1.len := by
  have step {t' : Table} (w : σ) (a : Action) (_ : a ∈ as) (wf : t'.WellFormed n)
      (grown : t.len ≤ t'.len) : t.len ≤ (a.perform loaders (t', w)).2.1.len :=
    Nat.le_trans grown (leads_perform wf loaders w a).len_le
  exact run_keeps step h w (Nat.le_refl _)

theorem base_run (h : t.WellFormed n) (loaders : Nat → Loader σ) (w : σ) (as : List Action) :
    (Action.run loaders (t, w) as).1.base = t.base := by
  have step {t' : Table} (w : σ) (a : Action) (_ : a ∈ as) (wf : t'.WellFormed n)
      (same : t'.base = t.base) : (a.perform loaders (t', w)).2.1.base = t.base :=
    (leads_perform wf loaders w a).base_eq.trans same
  exact run_keeps step h w rfl

end Table.WellFormed

end Segmentation
