import Mathlib.Logic.Function.Basic

/-!
# Mutexes and program counters

A mutex with at most one holder, beside the threads' own view of who is between
`lock` and `unlock`.

* `Owned m holds` — the mutex `m` is held by exactly the threads that take themselves
  to hold it.
* `Owned.keep`, `Owned.take`, `Owned.release` — what steps of one thread preserve it.
-/

namespace Mutex

variable {θ : Type*}

/-- The holder in the mutex is the thread whose program counter says that it
holds it. -/
def Owned (m : Option θ) (holds : θ → Prop) : Prop := ∀ q, m = some q ↔ holds q

variable {m : Option θ} {holds holds' : θ → Prop} {q : θ}

/-- A step that neither takes nor releases the mutex. -/
theorem Owned.keep (h : Owned m holds) (hsame : ∀ p, holds' p ↔ holds p) : Owned m holds' :=
  fun p => (h p).trans (hsame p).symm

/-- Locking: the mutex is free, and one thread comes to hold it. -/
theorem Owned.take (h : Owned none holds) (hself : holds' q)
    (hothers : ∀ p, p ≠ q → (holds' p ↔ holds p)) : Owned (some q) holds' := by
  intro p
  by_cases hp : p = q
  · subst hp
    exact ⟨fun _ => hself, fun _ => rfl⟩
  · rw [hothers p hp, ← h p, Option.some.injEq]
    exact ⟨fun heq => absurd heq.symm hp, fun heq => (by cases heq)⟩

/-- Unlocking: the holder no longer holds it, and nobody else did. -/
theorem Owned.release (h : Owned (some q) holds) (hself : ¬ holds' q)
    (hothers : ∀ p, p ≠ q → (holds' p ↔ holds p)) : Owned none holds' := by
  intro p
  by_cases hp : p = q
  · subst hp
    exact ⟨fun heq => (by cases heq), fun hheld => absurd hheld hself⟩
  · rw [hothers p hp, ← h p, Option.some.injEq]
    exact ⟨fun heq => (by cases heq), fun heq => absurd heq.symm hp⟩

/-- At most one thread holds the mutex. -/
theorem Owned.unique (h : Owned m holds) {p : θ} (hp : holds p) (hq : holds q) : p = q :=
  Option.some.inj (((h p).mpr hp).symm.trans ((h q).mpr hq))

end Mutex
