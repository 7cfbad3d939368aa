import Segmentation.Proofs.Loader.Tapped
import Segmentation.Proofs.Table.Accept
import Segmentation.Proofs.Table.WellFormed
import Segmentation.Workspace

namespace Segmentation

variable {σ τ : Type} [Journal σ] [Journal τ]

namespace ActiveSegments

def handTo (s : ActiveSegments) (loader : Loader σ) (w : σ) : σ :=
  Journal.log (.loaded s) (loader.reloadSegments s.code s.data (loader.loadTable s.table w))

def readBack (loader : Loader σ) (w : σ) : σ :=
  Journal.log (.observed (loader.active w).1) (loader.active w).2

theorem verify_eq (s : ActiveSegments) (loader : Loader σ) (w : σ) :
    s.verify loader w =
      match s.check (loader.active w).1 with
      | .error e => .error e (readBack loader w)
      | .ok () => .ok () (Journal.log .verified (readBack loader w)) := rfl

end ActiveSegments

namespace Table

def announced (t : Table) (w : σ) : σ := Journal.log (.drawn t) (Journal.log (.loading t) w)

theorem load_refused {loader : Loader σ} {t : Table} {w : σ} {code data : Selector}
    {e : SegmentError} (h : t.accept code data = .error e) :
    load loader code data (t, w) = .error e (t, w) := by
  simp only [load, h]

theorem load_accepted {loader : Loader σ} {t : Table} {w : σ} {code data : Selector}
    {s : ActiveSegments} (h : t.accept code data = .ok s) :
    load loader code data (t, w) = .ok s (t.markLoaded, s.handTo loader w) := by
  obtain ⟨-, -, -, -, -, -, rfl⟩ := accept_eq_ok_iff.mp h
  simp only [load, h]
  rfl

theorem install_refused {loader : Loader σ} {t : Table} {w : σ} {e : SegmentError}
    (h : t.accept .kernelCode .kernelData = .error e) :
    install loader (t, w) = .error e (t, t.announced w) := by
  change EStateM.bind (load loader .kernelCode .kernelData) _ (t, t.announced w) = _
  rw [EStateM.bind, load_refused h]

theorem install_accepted {loader : Loader σ} {t : Table} {w : σ} {s : ActiveSegments}
    (h : t.accept .kernelCode .kernelData = .ok s) :
    install loader (t, w) =
      match s.verify loader (s.handTo loader (t.announced w)) with
      | .error e w => .error e (t.markLoaded, w)
      | .ok () w => .ok s (t.markLoaded, w) := by
  change EStateM.bind (load loader .kernelCode .kernelData) _ (t, t.announced w) = _
  rw [EStateM.bind, load_accepted h]
  change EStateM.bind (outside (s.verify loader)) _ (t.markLoaded, _) = _
  rw [EStateM.bind, outside]
  cases s.verify loader (s.handTo loader (t.announced w)) <;> rfl

end Table

inductive Action where
  | push (d : Descriptor)
  | set (index : Nat) (d : Descriptor)
  | load (loader : Nat) (code data : Selector)
  | install (loader : Nat)
  deriving DecidableEq

namespace Action

def reply (answer : α → Answer) : EStateM.Result SegmentError (Table × σ) α → Answer × Table × σ
  | .ok a s => (answer a, s)
  | .error e s => (.refused e, s)

def perform (loaders : Nat → Loader σ) (a : Action) (s : Table × σ) : Answer × Table × σ :=
  match a with
  | .push d => reply .index (Table.push d s)
  | .set index d => reply (fun _ => .done) (Table.set index d s)
  | .load k code data => reply .segments (Table.load (loaders k) code data s)
  | .install k => reply .segments (Table.install (loaders k) s)

def run (loaders : Nat → Loader σ) (s : Table × σ) (actions : List Action) : Table × σ :=
  actions.foldl (fun s a => (a.perform loaders s).2) s

section Perform

variable (loaders : Nat → Loader σ) (t : Table) (w : σ)

theorem perform_set {n : Capacity} (h : t.WellFormed n) (index : Nat) (d : Descriptor) :
    (set index d).perform loaders (t, w) =
      if index = 0 then (.refused .nullSlotReserved, t, w)
      else if n.slots ≤ index then (.refused (.indexOutOfRange index n.slots), t, w)
      else (.done, t.write index d, Journal.log (.written index d) w) := by
  change reply _ (Table.set index d (t, w)) = _
  rw [Table.set, h.capacity_eq]
  split
  · rfl
  · split <;> rfl

theorem perform_set_of_lt {n : Capacity} (h : t.WellFormed n) {index : Nat} (pos : index ≠ 0)
    (lt : index < n.slots) (d : Descriptor) :
    (set index d).perform loaders (t, w) =
      (.done, t.write index d, Journal.log (.written index d) w) := by
  rw [perform_set loaders t w h, if_neg pos, if_neg (Nat.not_le_of_lt lt)]

theorem perform_push {n : Capacity} (h : t.WellFormed n) (d : Descriptor) :
    (push d).perform loaders (t, w) =
      if n.slots ≤ t.len then (.refused (.tableFull n.slots), t, w)
      else (.index t.len.toUInt16, t.write t.len d, Journal.log (.written t.len d) w) := by
  change reply _ (Table.push d (t, w)) = _
  rw [← h.capacity_eq]
  split
  · next hfull =>
    rw [Table.push_full t w d hfull]
    rfl
  · next hroom =>
    rw [Table.push_ok t w d (Nat.ne_of_gt h.len_pos) (Nat.lt_of_not_le hroom)]
    rfl

theorem perform_load (k : Nat) (code data : Selector) :
    (load k code data).perform loaders (t, w) =
      match t.accept code data with
      | .error e => (.refused e, t, w)
      | .ok s => (.segments s, t.markLoaded, s.handTo (loaders k) w) := by
  change reply _ (Table.load (loaders k) code data (t, w)) = _
  cases h : t.accept code data with
  | error e => rw [Table.load_refused h]; rfl
  | ok s => rw [Table.load_accepted h]; rfl

theorem load_segments_iff {k : Nat} {code data : Selector} {a : ActiveSegments} :
    ((load k code data).perform loaders (t, w)).1 = .segments a ↔
      t.accept code data = .ok a := by
  rw [perform_load]
  cases t.accept code data <;> simp

theorem load_refused_iff {k : Nat} {code data : Selector} {e : SegmentError} :
    ((load k code data).perform loaders (t, w)).1 = .refused e ↔
      t.accept code data = .error e := by
  rw [perform_load]
  cases t.accept code data <;> simp

theorem perform_install_refused {t : Table} {e : SegmentError} (k : Nat)
    (h : t.accept .kernelCode .kernelData = .error e) :
    (install k).perform loaders (t, w) = (.refused e, t, t.announced w) := by
  rw [perform, Table.install_refused h]
  rfl

theorem perform_install_accepted {t : Table} {s : ActiveSegments} (k : Nat)
    (h : t.accept .kernelCode .kernelData = .ok s) :
    (install k).perform loaders (t, w) =
      let w' := s.handTo (loaders k) (t.announced w)
      match s.check ((loaders k).active w').1 with
      | .error e => (.refused e, t.markLoaded, ActiveSegments.readBack (loaders k) w')
      | .ok () => (.segments s, t.markLoaded,
          Journal.log .verified (ActiveSegments.readBack (loaders k) w')) := by
  rw [perform, Table.install_accepted h, ActiveSegments.verify_eq]
  dsimp only
  cases s.check ((loaders k).active (s.handTo (loaders k) (t.announced w))).1 <;> rfl

end Perform

def written? : Action → Answer → Option (Nat × Descriptor)
  | .push d, .index index => some (index.toNat, d)
  | .set index d, .done => some (index, d)
  | _, _ => none

def Asks (k : Nat) (code data : Selector) : Action → Prop
  | .load l c d => l = k ∧ c = code ∧ d = data
  | .install l => l = k ∧ Selector.kernelCode = code ∧ Selector.kernelData = data
  | _ => False

end Action

namespace Table

def mapWorld (f : τ → σ) : EStateM.Result SegmentError (Table × τ) α →
    EStateM.Result SegmentError (Table × σ) α
  | .ok a s => .ok a (s.1, f s.2)
  | .error e s => .error e (s.1, f s.2)

variable {f : τ → σ} {inner : Nat → Loader τ} {outer : Nat → Loader σ}

theorem set_mirrored (h : Mirrors f inner outer) (index : Nat) (d : Descriptor) (t : Table)
    (w : τ) : set index d (t, f w) = mapWorld f (set index d (t, w)) := by
  simp only [set, ← h.log]
  split
  · rfl
  · split <;> rfl

theorem push_mirrored (h : Mirrors f inner outer) (d : Descriptor) (t : Table) (w : τ) :
    push d (t, f w) = mapWorld f (push d (t, w)) := by
  simp only [push]
  split
  · rfl
  · change EStateM.bind _ _ _ = mapWorld f (EStateM.bind _ _ _)
    rw [EStateM.bind, EStateM.bind, set_mirrored h]
    cases set t.len d (t, w) <;> rfl

theorem announced_mirrored (h : Mirrors f inner outer) (t : Table) (w : τ) :
    t.announced (f w) = f (t.announced w) := by
  rw [announced, announced, h.log, h.log]

theorem handTo_mirrored (h : Mirrors f inner outer) (s : ActiveSegments) (k : Nat) (w : τ) :
    s.handTo (outer k) (f w) = f (s.handTo (inner k) w) := by
  rw [ActiveSegments.handTo, ActiveSegments.handTo, h.log, h.reloadSegments, h.loadTable]

theorem verify_mirrored (h : Mirrors f inner outer) (s : ActiveSegments) (k : Nat) (w : τ) :
    s.verify (outer k) (f w) =
      match s.verify (inner k) w with
      | .error e w => .error e (f w)
      | .ok () w => .ok () (f w) := by
  simp only [ActiveSegments.verify_eq, ActiveSegments.readBack, h.active, ← h.log]
  cases s.check ((inner k).active w).1 <;> rfl

theorem load_mirrored (h : Mirrors f inner outer) (k : Nat) (code data : Selector) (t : Table)
    (w : τ) :
    load (outer k) code data (t, f w) = mapWorld f (load (inner k) code data (t, w)) := by
  cases haccept : t.accept code data with
  | error e => rw [load_refused haccept, load_refused haccept]; rfl
  | ok s => rw [load_accepted haccept, load_accepted haccept, handTo_mirrored h]; rfl

theorem install_mirrored (h : Mirrors f inner outer) (k : Nat) (t : Table) (w : τ) :
    install (outer k) (t, f w) = mapWorld f (install (inner k) (t, w)) := by
  cases haccept : t.accept .kernelCode .kernelData with
  | error e =>
    rw [install_refused haccept, install_refused haccept, announced_mirrored h]
    rfl
  | ok s =>
    rw [install_accepted haccept, install_accepted haccept, announced_mirrored h,
      handTo_mirrored h, verify_mirrored h]
    cases s.verify (inner k) (s.handTo (inner k) (t.announced w)) <;> rfl

end Table

omit [Journal σ] [Journal τ] in
theorem Action.reply_mapWorld (f : τ → σ) (answer : α → Answer)
    (r : EStateM.Result SegmentError (Table × τ) α) :
    reply answer (Table.mapWorld f r) =
      ((reply answer r).1, (reply answer r).2.1, f (reply answer r).2.2) := by
  cases r <;> rfl

theorem Action.perform_mirrored {f : τ → σ} {inner : Nat → Loader τ} {outer : Nat → Loader σ}
    (h : Mirrors f inner outer) (a : Action) (t : Table) (w : τ) :
    a.perform outer (t, f w) =
      ((a.perform inner (t, w)).1, (a.perform inner (t, w)).2.1,
        f (a.perform inner (t, w)).2.2) := by
  cases a with
  | push d => rw [perform, Table.push_mirrored h, reply_mapWorld]; rfl
  | set index d => rw [perform, Table.set_mirrored h, reply_mapWorld]; rfl
  | load k code data => rw [perform, Table.load_mirrored h, reply_mapWorld]; rfl
  | install k => rw [perform, Table.install_mirrored h, reply_mapWorld]; rfl

end Segmentation
