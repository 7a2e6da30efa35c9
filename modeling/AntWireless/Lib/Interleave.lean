import AntWireless.Lib.Exec

/-!
# Two systems side by side

The product of two labelled step functions: every action is an action of one of them, and
leaves the other where it is.

* `beside` — the product.
* `Simulation.exec_log_of` — the simulation rule with a side condition on the simulating
  system.
* `Exec.unique` — the schedule decides where a run ends.
-/

namespace Lts

variable {σ α τ β υ : Type*} {stepA : σ → α → Option σ} {stepB : τ → β → Option τ}

/-- The two systems, each moving on its own. -/
def beside (stepA : σ → α → Option σ) (stepB : τ → β → Option τ) (x : σ × τ) :
    α ⊕ β → Option (σ × τ)
  | .inl a => (stepA x.1 a).map fun s => (s, x.2)
  | .inr b => (stepB x.2 b).map fun t => (x.1, t)

theorem beside_inl {x y : σ × τ} {a : α} :
    beside stepA stepB x (.inl a) = some y ↔ stepA x.1 a = some y.1 ∧ y.2 = x.2 := by
  obtain ⟨s, t⟩ := y
  simp only [beside, Option.map_eq_some_iff, Prod.mk.injEq]
  constructor
  · rintro ⟨s', hs, rfl, rfl⟩
    exact ⟨hs, rfl⟩
  · rintro ⟨hs, rfl⟩
    exact ⟨s, hs, rfl, rfl⟩

theorem beside_inr {x y : σ × τ} {b : β} :
    beside stepA stepB x (.inr b) = some y ↔ stepB x.2 b = some y.2 ∧ y.1 = x.1 := by
  obtain ⟨s, t⟩ := y
  simp only [beside, Option.map_eq_some_iff, Prod.mk.injEq]
  constructor
  · rintro ⟨t', ht, rfl, rfl⟩
    exact ⟨ht, rfl⟩
  · rintro ⟨ht, rfl⟩
    exact ⟨t, ht, rfl, rfl⟩

/-- **Simulation rule, with a side condition.** If every observed step meets
`G'` in the simulating system, the log is a schedule of it that meets `G'`. -/
theorem Simulation.exec_log_of {f : σ → τ} {obs : σ → α → Option β} {I : σ → Prop}
    {G : σ → α → Prop} {G' : τ → β → Prop} {s : σ} {as : List α}
    (hsim : Simulation stepA stepB f obs I G)
    (hG' : ∀ s a s' b, I s → G s a → stepA s a = some s' → obs s a = some b → G' (f s) b)
    (hI : ∀ s a s', I s → G s a → stepA s a = some s' → I s') (h0 : I s) {y : σ × List β}
    (h : Exec (logged stepA obs) (fun x a => G x.1 a) (s, []) as y) :
    Exec stepB G' (f s) y.2 (f y.1) := by
  classical
  -- the simulating system with the side condition built in
  have hguarded : Simulation stepA (fun t b => if G' t b then stepB t b else none) f obs I G := by
    intro s a s' hs hg hst
    have hmatch := hsim s a s' hs hg hst
    cases hobs : obs s a with
    | none => simpa only [hobs] using hmatch
    | some b =>
      rw [hobs] at hmatch
      show (if G' (f s) b then stepB (f s) b else none) = some (f s')
      rw [if_pos (hG' s a s' b hs hg hst hobs)]
      exact hmatch
  have hrun := hguarded.exec_log hI h0 h
  generalize f y.1 = t, y.2 = log at hrun ⊢
  induction hrun with
  | nil => exact .nil
  | snoc _ _ hs ih =>
    obtain ⟨hg, hs⟩ := Option.ite_none_right_eq_some.mp hs
    exact .snoc ih hg hs

-- ---------------------------------------------------------------------------
-- Schedules
-- ---------------------------------------------------------------------------

section Schedules

variable {G G' : σ → α → Prop} {s t u : σ} {as : List α} {a : α}

theorem Exec.of_snoc (h : Exec stepA G s (as ++ [a]) u) :
    ∃ t, Exec stepA G s as t ∧ G t a ∧ stepA t a = some u := by
  generalize hbs : as ++ [a] = bs at h
  cases h with
  | nil => simp at hbs
  | snoc h hg hs =>
    obtain ⟨rfl, ha⟩ := List.append_inj' hbs rfl
    obtain rfl := List.head_eq_of_cons_eq ha
    exact ⟨_, h, hg, hs⟩

/-- A schedule leads to one state. -/
theorem Exec.unique (h : Exec stepA G s as t) (h' : Exec stepA G' s as u) : t = u := by
  induction h generalizing u with
  | nil =>
    generalize hbs : ([] : List α) = bs at h'
    cases h' with
    | nil => rfl
    | snoc => simp at hbs
  | snoc _ _ hs ih =>
    obtain ⟨v, hv, -, hs'⟩ := h'.of_snoc
    obtain rfl := ih hv
    exact Option.some.inj (hs.symm.trans hs')

/-- Steps that change nothing can be left out, and with them the steps that do
not meet another side condition, if those change nothing. -/
theorem Exec.drop_idle
    (h : ∀ s a s', G s a → stepA s a = some s' → G' s a ∨ s' = s) (hrun : Exec stepA G s as t) :
    ∃ bs, bs.Sublist as ∧ Exec stepA G' s bs t := by
  induction hrun with
  | nil => exact ⟨[], List.Sublist.refl _, .nil⟩
  | @snoc as t u a _ hg hs ih =>
    obtain ⟨bs, hsub, hrun⟩ := ih
    rcases h t a u hg hs with hg' | rfl
    · exact ⟨bs ++ [a], hsub.append (List.Sublist.refl _), hrun.snoc hg' hs⟩
    · exact ⟨bs, hsub.trans (List.sublist_append_left _ _), hrun⟩

end Schedules

end Lts
