import Mathlib.Data.List.Basic

/-!
# Executions of labelled step functions

A system is a partial step function `step : σ → α → Option σ`: the state after
an action, or `none` where the action is not enabled. All nondeterminism is in
the choice of the action, so a schedule is a list of actions.

* `Exec step G s as t` — the schedule `as` leads from `s` to `t`, and every
  step meets the side condition `G` (on the state before it and its action).
* `Exec.invariant` — what every step that meets `G` preserves holds at the end.
* `runIf` — the executable counterpart; `exec_of_runIf`, `exec_of_computed` and
  `exec_of_checked` turn a computed run into an execution.
* `logged` — the system with a log of observations; `CanObserve` — what some
  continuation logs.
* `Simulation.exec_log` — reads the log of a simulated system as a schedule of the
  simulating one.
-/

namespace Lts

variable {σ α τ β : Type*}

-- ---------------------------------------------------------------------------
-- Executions
-- ---------------------------------------------------------------------------

/-- The schedule `as` leads from `s` to `t`, each step enabled and meeting `G`. -/
inductive Exec (step : σ → α → Option σ) (G : σ → α → Prop) (s : σ) : List α → σ → Prop
  | nil : Exec step G s [] s
  | snoc {as : List α} {t u : σ} {a : α} :
      Exec step G s as t → G t a → step t a = some u → Exec step G s (as ++ [a]) u

/-- The side condition that asks nothing. -/
def Any (_ : σ) (_ : α) : Prop := True

variable {step : σ → α → Option σ} {G G' : σ → α → Prop} {s t u : σ} {as bs : List α}

/-- A run under a side condition is one under any that follows from it. -/
theorem Exec.mono (hG : ∀ s a, G s a → G' s a) (h : Exec step G s as t) :
    Exec step G' s as t := by
  induction h with
  | nil => exact .nil
  | snoc _ hg hs ih => exact .snoc ih (hG _ _ hg) hs

/-- **Invariant rule.** What every step under the side condition preserves
holds at the end of every run, if it holds at the start. -/
theorem Exec.invariant {I : σ → Prop}
    (hstep : ∀ s a s', I s → G s a → step s a = some s' → I s')
    (h0 : I s) (h : Exec step G s as t) : I t := by
  induction h with
  | nil => exact h0
  | snoc _ hg hs ih => exact hstep _ _ _ ih hg hs

theorem Exec.append (h : Exec step G s as t) (h' : Exec step G t bs u) :
    Exec step G s (as ++ bs) u := by
  induction h' with
  | nil => simpa using h
  | snoc _ hg hs ih =>
    rw [← List.append_assoc]
    exact .snoc ih hg hs

theorem Exec.single {a : α} (hg : G s a) (hs : step s a = some t) : Exec step G s [a] t :=
  .snoc .nil hg hs

-- ---------------------------------------------------------------------------
-- Computed runs
-- ---------------------------------------------------------------------------

/-- Run a schedule, stopping where a step is not enabled or fails the check `ok`. -/
def runIf (step : σ → α → Option σ) (ok : σ → α → Bool) : σ → List α → Option σ
  | s, [] => some s
  | s, a :: as => if ok s a then (step s a).bind fun s' => runIf step ok s' as else none

/-- A schedule that was computed, each step checked, is a run. -/
theorem exec_of_runIf {ok : σ → α → Bool} (hok : ∀ s a, ok s a = true → G s a) :
    ∀ {as : List α} {s t : σ}, runIf step ok s as = some t → Exec step G s as t
  | [], s, t, h => by
    rw [runIf, Option.some.injEq] at h
    exact h ▸ .nil
  | a :: as, s, t, h => by
    rw [runIf] at h
    split at h
    · rename_i hg
      obtain ⟨s', hs, hrun⟩ := Option.bind_eq_some_iff.mp h
      exact (Exec.single (hok _ _ hg) hs).append (exec_of_runIf hok hrun)
    · cases h

/-- A computed run at whose end `f` finds `v`. -/
theorem exec_of_computed {f : σ → β} {v : β}
    (h : (runIf step (fun _ _ => true) s as).map f = some v) :
    ∃ t, Exec step Any s as t ∧ f t = v := by
  obtain ⟨t, hrun, hval⟩ := Option.map_eq_some_iff.mp h
  exact ⟨t, exec_of_runIf (fun _ _ _ => trivial) hrun, hval⟩

/-- A computed run each of whose steps was checked, at whose end `f` finds `v`. -/
theorem exec_of_checked [∀ s a, Decidable (G s a)] {f : σ → β} {v : β}
    (h : (runIf step (fun s a => decide (G s a)) s as).map f = some v) :
    ∃ t, Exec step G s as t ∧ f t = v := by
  obtain ⟨t, hrun, hval⟩ := Option.map_eq_some_iff.mp h
  exact ⟨t, exec_of_runIf (fun _ _ hg => of_decide_eq_true hg) hrun, hval⟩

-- ---------------------------------------------------------------------------
-- Logs and simulation
-- ---------------------------------------------------------------------------

/-- The system that also appends the observation `obs s a` of each step to a log. -/
def logged (step : σ → α → Option σ) (obs : σ → α → Option β) (x : σ × List β) (a : α) :
    Option (σ × List β) :=
  (step x.1 a).map fun s' => (s', x.2 ++ (obs x.1 a).toList)

/-- A step of the logged system: one of the system, with what it shows at the
end of the log. -/
theorem logged_eq_some {obs : σ → α → Option β} {x y : σ × List β} {a : α} :
    logged step obs x a = some y ↔
      step x.1 a = some y.1 ∧ y.2 = x.2 ++ (obs x.1 a).toList := by
  obtain ⟨y₁, y₂⟩ := y
  simp only [logged, Option.map_eq_some_iff, Prod.mk.injEq]
  constructor
  · rintro ⟨s', hs, rfl, rfl⟩
    exact ⟨hs, rfl⟩
  · rintro ⟨hs, rfl⟩
    exact ⟨y₁, hs, rfl, rfl⟩

/-- Forgetting the log of a logged execution. -/
theorem Exec.unlogged {obs : σ → α → Option β} {x y : σ × List β}
    (h : Exec (logged step obs) (fun x a => G x.1 a) x as y) : Exec step G x.1 as y.1 := by
  induction h with
  | nil => exact .nil
  | snoc _ hg hs ih => exact .snoc ih hg (logged_eq_some.mp hs).1

/-- Some schedule from the state observes something that satisfies `P`. -/
inductive CanObserve (step : σ → α → Option σ) (obs : σ → α → Option β) (P : β → Prop) : σ → Prop
  | now {s s' : σ} {a : α} {o : β} (hs : step s a = some s') (ho : obs s a = some o) (hP : P o) :
      CanObserve step obs P s
  | later {s s' : σ} {a : α} (hs : step s a = some s') (h : CanObserve step obs P s') :
      CanObserve step obs P s

/-- What can be observed is in the log of some run. -/
theorem CanObserve.exists_exec {obs : σ → α → Option β} {P : β → Prop}
    (h : CanObserve step obs P s) (l : List β) :
    ∃ as t log, Exec (logged step obs) Any (s, l) as (t, log) ∧ ∃ o ∈ log, P o := by
  induction h generalizing l with
  | @now s s' a o hs ho hP =>
    refine ⟨[a], s', l ++ [o], .single trivial (logged_eq_some.mpr ⟨hs, ?_⟩), o, ?_, hP⟩
    · rw [ho, Option.toList_some]
    · exact List.mem_append_right _ (List.mem_singleton.mpr rfl)
  | @later s s' a hs h ih =>
    obtain ⟨as, t, log, hrun, hob⟩ := ih (l ++ (obs s a).toList)
    have hfirst : Exec (logged step obs) Any (s, l) [a] (s', l ++ (obs s a).toList) :=
      .single trivial (logged_eq_some.mpr ⟨hs, rfl⟩)
    exact ⟨_, t, log, hfirst.append hrun, hob⟩

/-- `stepA` is simulated by `stepB` along `f` on states satisfying `I`: a step
observed as `b` is matched by the abstract action `b`, an unobserved one
leaves the abstract state alone. -/
def Simulation (stepA : σ → α → Option σ) (stepB : τ → β → Option τ)
    (f : σ → τ) (obs : σ → α → Option β) (I : σ → Prop) (G : σ → α → Prop) : Prop :=
  ∀ s a s', I s → G s a → stepA s a = some s' →
    match obs s a with
    | some b => stepB (f s) b = some (f s')
    | none => f s' = f s

/-- **Simulation rule.** The log of an execution of the simulated system is a
schedule of the simulating one, between the states that correspond. -/
theorem Simulation.exec_log {stepB : τ → β → Option τ} {f : σ → τ}
    {obs : σ → α → Option β} {I : σ → Prop}
    (hsim : Simulation step stepB f obs I G)
    (hI : ∀ s a s', I s → G s a → step s a = some s' → I s')
    (h0 : I s) {y : σ × List β}
    (h : Exec (logged step obs) (fun x a => G x.1 a) (s, []) as y) :
    Exec stepB Any (f s) y.2 (f y.1) := by
  generalize hx : (s, ([] : List β)) = x at h
  induction h with
  | nil =>
    subst hx
    exact .nil
  | @snoc as y z a hrun hg hs ih =>
    obtain ⟨hst, hlog⟩ := logged_eq_some.mp hs
    have hIy : I y.1 := by
      have hrun' := hrun.unlogged
      rw [← hx] at hrun'
      exact hrun'.invariant hI h0
    have hmatch := hsim _ _ _ hIy hg hst
    rw [hlog]
    cases hobs : obs y.1 a with
    | none =>
      rw [hobs] at hmatch
      simpa [hmatch] using ih
    | some b =>
      rw [hobs] at hmatch
      exact .snoc ih trivial hmatch

end Lts
