import Mathlib

/-!
# A recursive mutex that threads share

A thread that has the mutex may lock it again; for any other thread the lock waits, which
is a step that is not enabled.  An unlock by a thread that does not have the mutex changes
nothing.
-/

namespace Mbstf.SharedMutex

variable {Thread : Type*}

/-- The thread that has the mutex, and how often it has locked it again. -/
structure Mutex (Thread : Type*) where
  holder : Option (Thread × ℕ)

namespace Mutex

def free : Mutex Thread := ⟨none⟩

def lock [DecidableEq Thread] (mutex : Mutex Thread) (thread : Thread) :
    Option (Mutex Thread) :=
  match mutex.holder with
  | none => some ⟨some (thread, 0)⟩
  | some (owner, again) => if owner = thread then some ⟨some (owner, again + 1)⟩ else none

def unlock [DecidableEq Thread] (mutex : Mutex Thread) (thread : Thread) : Mutex Thread :=
  match mutex.holder with
  | none => mutex
  | some (owner, 0) => if owner = thread then free else mutex
  | some (owner, again + 1) => if owner = thread then ⟨some (owner, again)⟩ else mutex

/-- The mutex is held by the thread that is inside, once, and free when none is. -/
inductive Guards : Mutex Thread → (Thread → Prop) → Prop
  | free {inside : Thread → Prop} : (∀ thread, ¬ inside thread) → Guards free inside
  | held {inside : Thread → Prop} {owner : Thread} :
      (∀ thread, inside thread ↔ thread = owner) → Guards ⟨some (owner, 0)⟩ inside

variable {mutex after : Mutex Thread} {inside insideAfter : Thread → Prop} {thread : Thread}

/-- At most one thread is inside. -/
theorem Guards.unique (hguards : Guards mutex inside) {first second : Thread}
    (hfirst : inside first) (hsecond : inside second) : first = second := by
  cases hguards with
  | free hnone => exact absurd hfirst (hnone first)
  | held howner => rw [(howner first).mp hfirst, (howner second).mp hsecond]

/-- The threads that are inside matter, and not how that is said. -/
theorem Guards.congr (hguards : Guards mutex inside)
    (hsame : ∀ other, insideAfter other ↔ inside other) : Guards mutex insideAfter := by
  obtain rfl : insideAfter = inside := funext fun other => propext (hsame other)
  exact hguards

variable [DecidableEq Thread]

/-- A thread outside that gets the mutex is then the one inside. -/
theorem Guards.lock (hguards : Guards mutex inside) (houtside : ¬ inside thread)
    (hlock : mutex.lock thread = some after)
    (hafter : ∀ other, insideAfter other ↔ inside other ∨ other = thread) :
    Guards after insideAfter := by
  cases hguards with
  | free hnone =>
      obtain rfl : Mutex.mk (some (thread, 0)) = after := Option.some.inj hlock
      apply Guards.held
      intro other
      rw [hafter, or_iff_right (hnone other)]
  | @held _ owner howner =>
      have hne : owner ≠ thread := fun hsame => houtside ((howner thread).mpr hsame.symm)
      simp [Mutex.lock, hne] at hlock

/-- When the thread inside unlocks, none is inside. -/
theorem Guards.unlock (hguards : Guards mutex inside) (hinside : inside thread)
    (hafter : ∀ other, insideAfter other ↔ inside other ∧ other ≠ thread) :
    Guards (mutex.unlock thread) insideAfter := by
  cases hguards with
  | free hnone => exact absurd hinside (hnone thread)
  | @held _ owner howner =>
      obtain rfl : thread = owner := (howner thread).mp hinside
      have hfree : (Mutex.mk (some (thread, 0))).unlock thread = Mutex.free := by
        simp [Mutex.unlock]
      rw [hfree]
      apply Guards.free
      intro other
      rw [hafter, howner]
      exact fun hboth => hboth.2 hboth.1

/-- An unlock by a thread outside has no effect. -/
theorem Guards.unlock_outside (hguards : Guards mutex inside) (houtside : ¬ inside thread) :
    mutex.unlock thread = mutex := by
  cases hguards with
  | free hnone => rfl
  | @held _ owner howner =>
      have hne : owner ≠ thread := fun hsame => houtside ((howner thread).mpr hsame.symm)
      simp [Mutex.unlock, hne]

end Mutex

end Mbstf.SharedMutex
