import Segmentation.Loader

/-! Worlds that keep a list of all that is asked of them: the records logged and the calls made on
loaders, oldest first. Keeping the list changes nothing else. -/

namespace Segmentation

/-- The loaders of a family are told apart by number. -/
inductive Call where
  | log (r : Record)
  | loadTable (loader : Nat) (p : TablePointer)
  | reloadSegments (loader : Nat) (code data : Selector)
  | active (loader : Nat)
  deriving DecidableEq

namespace Call

def isQuiet : Call → Bool
  | .log _ => true
  | .loadTable _ _ => false
  | .reloadSegments _ _ _ => false
  | .active _ => true

def pointer? : Call → Option TablePointer
  | .loadTable _ p => some p
  | _ => none

theorem pointer?_of_isQuiet {c : Call} (h : c.isQuiet = true) : c.pointer? = none := by
  cases c with
  | log r => rfl
  | loadTable k p => cases h
  | reloadSegments k code data => rfl
  | active k => rfl

end Call

structure Tapped (σ : Type) where
  world : σ
  calls : List Call

namespace Tapped

variable {σ : Type}

def start (w : σ) : Tapped σ := ⟨w, []⟩

def after (earlier : List Call) (w : Tapped σ) : Tapped σ := ⟨w.world, earlier ++ w.calls⟩

instance [Journal σ] : Journal (Tapped σ) where
  log r w := ⟨Journal.log r w.world, w.calls ++ [.log r]⟩

end Tapped

def Loader.tapped (k : Nat) (l : Loader σ) : Loader (Tapped σ) where
  loadTable p w := ⟨l.loadTable p w.world, w.calls ++ [.loadTable k p]⟩
  reloadSegments code data w :=
    ⟨l.reloadSegments code data w.world, w.calls ++ [.reloadSegments k code data]⟩
  active w :=
    let (segments, s) := l.active w.world
    (segments, ⟨s, w.calls ++ [.active k]⟩)

def Loader.tapAll (loaders : Nat → Loader σ) (k : Nat) : Loader (Tapped σ) := (loaders k).tapped k

namespace Journal

def logAll [Journal σ] (records : List Record) (w : σ) : σ := records.foldl (fun w r => log r w) w

theorem calls_logAll [Journal σ] (records : List Record) (w : Tapped σ) :
    (logAll records w).calls = w.calls ++ records.map .log := by
  induction records generalizing w with
  | nil => exact (List.append_nil _).symm
  | cons r records ih =>
    change (logAll records (log r w)).calls = _
    rw [ih]
    exact List.append_assoc ..

end Journal

/-- Under `f` the log and the loaders of one world become those of another. -/
structure Mirrors [Journal τ] [Journal σ] (f : τ → σ) (inner : Nat → Loader τ)
    (outer : Nat → Loader σ) : Prop where
  log : ∀ r w, f (Journal.log r w) = Journal.log r (f w)
  loadTable : ∀ k p w, f ((inner k).loadTable p w) = (outer k).loadTable p (f w)
  reloadSegments : ∀ k code data w,
    f ((inner k).reloadSegments code data w) = (outer k).reloadSegments code data (f w)
  active : ∀ k w, (outer k).active (f w) = (((inner k).active w).1, f ((inner k).active w).2)

namespace Mirrors

variable [Journal τ] [Journal σ] {f : τ → σ} {inner : Nat → Loader τ} {outer : Nat → Loader σ}

theorem logAll (h : Mirrors f inner outer) (records : List Record) (w : τ) :
    f (Journal.logAll records w) = Journal.logAll records (f w) := by
  induction records generalizing w with
  | nil => rfl
  | cons r records ih =>
    change f (Journal.logAll records (Journal.log r w)) = _
    rw [ih, h.log]
    rfl

theorem world (loaders : Nat → Loader σ) :
    Mirrors Tapped.world (Loader.tapAll loaders) loaders where
  log _ _ := rfl
  loadTable _ _ _ := rfl
  reloadSegments _ _ _ _ := rfl
  active _ _ := rfl

theorem after (loaders : Nat → Loader σ) (earlier : List Call) :
    Mirrors (Tapped.after earlier) (Loader.tapAll loaders) (Loader.tapAll loaders) where
  log _ _ := congrArg (Tapped.mk _) (List.append_assoc ..).symm
  loadTable _ _ _ := congrArg (Tapped.mk _) (List.append_assoc ..).symm
  reloadSegments _ _ _ _ := congrArg (Tapped.mk _) (List.append_assoc ..).symm
  active _ _ := congrArg (fun calls => (_, Tapped.mk _ calls)) (List.append_assoc ..)

end Mirrors

end Segmentation
