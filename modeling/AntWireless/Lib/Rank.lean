import AntWireless.Lib.Exec
import Mathlib.Algebra.BigOperators.Group.Finset.Basic
import Mathlib.Algebra.Order.BigOperators.Group.Finset

/-!
# Ranking functions for executions

A rank that every step lowers bounds the length of a schedule, with no fairness
assumption: whatever is scheduled, the system runs out of steps.

* `Exec.countP_add_le` — the marked steps of a schedule and what is left of the rank
  fit in the rank at its start; `Exec.length_add_le` — the whole schedule does, where
  every step is marked.
* `sum_add_lt_of_move` — the rank of a system of threads, one weight each and a
  weight for what they share, when one thread moves.
-/

namespace Lts

variable {σ α ι : Type*} {step : σ → α → Option σ} {G : σ → α → Prop} {s t : σ} {as : List α}

/-- **Ranking rule.** On states satisfying an invariant, a rank that the
marked steps lower and no step raises bounds the marked steps of the
schedule. -/
theorem Exec.countP_add_le {I : σ → Prop} {r : σ → ℕ} {p : α → Bool}
    (hstep : ∀ s a s', I s → G s a → step s a = some s' → I s')
    (hle : ∀ s a s', I s → G s a → step s a = some s' →
      r s' + (if p a = true then 1 else 0) ≤ r s)
    (h0 : I s) (h : Exec step G s as t) : as.countP p + r t ≤ r s := by
  induction h with
  | nil => simp
  | snoc hrun hg hs ih =>
    have hdrop := hle _ _ _ (hrun.invariant hstep h0) hg hs
    rw [List.countP_append, List.countP_singleton]
    omega

/-- A rank that every step lowers bounds the length of the schedule. -/
theorem Exec.length_add_le {I : σ → Prop} {r : σ → ℕ}
    (hstep : ∀ s a s', I s → G s a → step s a = some s' → I s')
    (hlt : ∀ s a s', I s → G s a → step s a = some s' → r s' < r s)
    (h0 : I s) (h : Exec step G s as t) : as.length + r t ≤ r s := by
  have hcount := h.countP_add_le (p := fun _ => true) hstep
    (fun s a s' hI hg hs => hlt s a s' hI hg hs) h0
  rwa [List.countP_true] at hcount

/-- One thread moves: the others keep their weight, and what the thread and
the shared part weigh together goes down. -/
theorem sum_add_lt_of_move [DecidableEq ι] {T : Finset ι} {w w' : ι → ℕ} {c c' : ℕ} {i : ι}
    (hi : i ∈ T) (hother : ∀ j, j ≠ i → w' j = w j) (hlt : w' i + c' < w i + c) :
    ∑ j ∈ T, w' j + c' < ∑ j ∈ T, w j + c := by
  have hrest : ∑ j ∈ T.erase i, w' j = ∑ j ∈ T.erase i, w j :=
    Finset.sum_congr rfl fun j hj => hother j (Finset.ne_of_mem_erase hj)
  rw [← Finset.add_sum_erase T w' hi, ← Finset.add_sum_erase T w hi, hrest]
  omega

end Lts
