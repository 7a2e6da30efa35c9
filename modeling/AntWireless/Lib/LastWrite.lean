import AntWireless.Lib.Exec

/-!
# Last writes

A field that is unset at first and changes only where a step writes it holds what the last
write left there, whatever else the system does in between.

* `Lts.Writes` — a step sets the field to the value its observation writes, and keeps it
  otherwise.
* `Lts.lastWrite` — the last value a log writes; `lastWrite_eq_some_iff` — where it stands.
* `Lts.Writes.exec`, `Lts.Writes.exec_eq_some_iff` — the field at the end of a run.
-/

namespace Lts

variable {σ α β γ : Type*} {step : σ → α → Option σ} {G : σ → α → Prop} {obs : σ → α → Option β}

/-- A step that meets `G` writes `val o` to the field, where it observes `o`
and that is a write, and leaves it alone otherwise. -/
def Writes (step : σ → α → Option σ) (G : σ → α → Prop) (obs : σ → α → Option β)
    (field : σ → Option γ) (val : β → Option γ) : Prop :=
  ∀ s a s', G s a → step s a = some s' → field s' = ((obs s a).bind val).or (field s)

/-- The last value a log writes. -/
def lastWrite (val : β → Option γ) (log : List β) : Option γ := (log.filterMap val).getLast?

theorem lastWrite_append (val : β → Option γ) (log : List β) (o : Option β) :
    lastWrite val (log ++ o.toList) = (o.bind val).or (lastWrite val log) := by
  unfold lastWrite
  rw [List.filterMap_append, List.getLast?_append]
  cases o with
  | none => rfl
  | some b => cases hb : val b <;> simp [hb]

/-- The last write has no write behind it. -/
theorem lastWrite_eq_some_iff {val : β → Option γ} {log : List β} {v : γ} :
    lastWrite val log = some v ↔
      ∃ l b l', log = l ++ b :: l' ∧ val b = some v ∧ ∀ c ∈ l', val c = none := by
  rw [lastWrite, List.getLast?_eq_some_iff]
  constructor
  · rintro ⟨vs, hvs⟩
    obtain ⟨l₁, l₂, rfl, -, hlast⟩ := List.filterMap_eq_append_iff.mp hvs
    obtain ⟨l, b, l', rfl, -, hb, hnone⟩ := List.filterMap_eq_cons_iff.mp hlast
    exact ⟨l₁ ++ l, b, l', by simp, hb, List.filterMap_eq_nil_iff.mp hnone⟩
  · rintro ⟨l, b, l', rfl, hb, hnone⟩
    refine ⟨l.filterMap val, ?_⟩
    rw [List.filterMap_append, List.filterMap_cons_some hb, List.filterMap_eq_nil_iff.mpr hnone]

/-- **Last write.** At the end of a run the field has the last value written,
or what it had at the start. -/
theorem Writes.exec {field : σ → Option γ} {val : β → Option γ} (h : Writes step G obs field val)
    {s t : σ} {log : List β} {as : List α}
    (hrun : Exec (logged step obs) (fun x a => G x.1 a) (s, []) as (t, log)) :
    field t = (lastWrite val log).or (field s) := by
  refine hrun.invariant (I := fun x => field x.1 = (lastWrite val x.2).or (field s)) ?_ rfl
  rintro ⟨t, l⟩ a ⟨t', l'⟩ ih hg hs
  obtain ⟨hstep, hlog⟩ := logged_eq_some.mp hs
  have hfield : field t = (lastWrite val l).or (field s) := ih
  show field t' = (lastWrite val l').or (field s)
  rw [show l' = l ++ (obs t a).toList from hlog, lastWrite_append, h t a t' hg hstep, hfield,
    Option.or_assoc]

/-- The actions as a log. -/
theorem Exec.logged_actions {s t : σ} {as : List α} (hrun : Exec step G s as t) :
    Exec (logged step fun _ a => some a) (fun x a => G x.1 a) (s, []) as (t, as) := by
  induction hrun with
  | nil => exact .nil
  | snoc _ hg hs ih => exact .snoc ih hg (logged_eq_some.mpr ⟨hs, rfl⟩)

/-- A field that writes also unset again: it holds the last write, if there is
one and that has set it. -/
theorem Writes.exec_eq_some_iff {field : σ → Option γ} {val : β → Option (Option γ)}
    (h : Writes step G obs (fun s => some (field s)) val) {s t : σ} {log : List β} {as : List α}
    (h0 : field s = none)
    (hrun : Exec (logged step obs) (fun x a => G x.1 a) (s, []) as (t, log)) (v : γ) :
    field t = some v ↔
      ∃ l b l', log = l ++ b :: l' ∧ val b = some (some v) ∧ ∀ c ∈ l', val c = none := by
  have hlast : some (field t) = (lastWrite val log).or (some none) := h0 ▸ h.exec hrun
  rw [← lastWrite_eq_some_iff]
  cases hw : lastWrite val log with
  | none =>
    rw [hw, Option.none_or, Option.some.injEq] at hlast
    simp [hlast]
  | some w =>
    rw [hw, Option.some_or, Option.some.injEq] at hlast
    simp [hlast]

end Lts
