import AntWireless.Lib.Exec
import Mathlib.Logic.Function.Basic

/-!
# Rendezvous: one job at a time for every client

The specification of a blocking hand-over. A client submits a job and waits;
somebody starts the job, finishes it with a result, and only then does the
client return, with the value of that very result. Jobs of one client are
numbered by submission. What the clients do relative to each other is left open.

* `step` — the specification, one phase for every client.
* `exec_rounds` — the events of one client in any run are complete rounds
  `submit, start, finish, ret` in the order of submission, then the part of the
  round the client is in.
-/

namespace Rendezvous

/-- Where a client is: outside with `k` jobs behind it, or inside its `k`-th job. -/
inductive Phase (ρ : Type*)
  | idle (k : Nat)
  | submitted (k : Nat)
  | running (k : Nat)
  | finished (k : Nat) (r : ρ)
  deriving DecidableEq

/-- What happens to the `k`-th job of client `c`. -/
inductive Event (ι ρ β : Type*)
  | submit (c : ι) (k : Nat)
  | start (c : ι) (k : Nat)
  | finish (c : ι) (k : Nat) (r : ρ)
  | ret (c : ι) (k : Nat) (b : β)
  deriving DecidableEq

variable {ι ρ β : Type*}

/-- The client of an event. -/
def Event.client : Event ι ρ β → ι
  | .submit c _ | .start c _ | .finish c _ _ | .ret c _ _ => c

/-- Jobs behind the client. -/
def Phase.done : Phase ρ → Nat
  | .idle k | .submitted k | .running k | .finished k _ => k

variable [DecidableEq ι] [DecidableEq β] (val : ρ → β)

/-- One phase change; `val` is the value a result returns. -/
def move : Phase ρ → Event ι ρ β → Option (Phase ρ)
  | .idle k, .submit _ k' => if k' = k then some (.submitted k) else none
  | .submitted k, .start _ k' => if k' = k then some (.running k) else none
  | .running k, .finish _ k' r => if k' = k then some (.finished k r) else none
  | .finished k r, .ret _ k' b =>
    if k' = k ∧ b = val r then some (.idle (k + 1)) else none
  | _, _ => none

/-- The specification: an event moves its own client only. -/
def step (s : ι → Phase ρ) (e : Event ι ρ β) : Option (ι → Phase ρ) :=
  (move val (s e.client) e).map fun p => Function.update s e.client p

/-- A step leaves a client alone or is one of its own phase changes: events of
others do not show in it. -/
theorem step_client {s s' : ι → Phase ρ} {e : Event ι ρ β}
    (h : step val s e = some s') (c : ι) :
    s' c = s c ∨ (e.client = c ∧ move val (s c) e = some (s' c)) := by
  obtain ⟨p, hp, rfl⟩ := Option.map_eq_some_iff.mp h
  by_cases hc : e.client = c
  · subst hc
    exact Or.inr ⟨rfl, by rwa [Function.update_self]⟩
  · exact Or.inl (Function.update_of_ne (Ne.symm hc) _ _)

/-- The complete `k`-th round of client `c`. -/
def round (c : ι) (k : Nat) (r : ρ) : List (Event ι ρ β) :=
  [.submit c k, .start c k, .finish c k r, .ret c k (val r)]

/-- The complete rounds with results `rs`, numbered from zero. -/
def rounds (c : ι) (rs : List ρ) : List (Event ι ρ β) :=
  rs.zipIdx.flatMap fun x => round val c x.2 x.1

/-- The part of a round that a client in this phase has behind it. -/
def partialRound (c : ι) : Phase ρ → List (Event ι ρ β)
  | .idle _ => []
  | .submitted k => [.submit c k]
  | .running k => [.submit c k, .start c k]
  | .finished k r => [.submit c k, .start c k, .finish c k r]

omit [DecidableEq ι] [DecidableEq β] in
theorem rounds_concat (c : ι) (rs : List ρ) (r : ρ) :
    rounds val c (rs ++ [r]) = rounds val c rs ++ round val c rs.length r := by
  simp [rounds, List.zipIdx_append]

/-- The events of client `c`. -/
def project (c : ι) (log : List (Event ι ρ β)) : List (Event ι ρ β) :=
  log.filter fun e => decide (e.client = c)

omit [DecidableEq β] in
theorem project_concat_self (c : ι) (log : List (Event ι ρ β)) {e : Event ι ρ β}
    (he : e.client = c) : project c (log ++ [e]) = project c log ++ [e] := by
  simp [project, he]

omit [DecidableEq β] in
theorem project_concat_ne (c : ι) (log : List (Event ι ρ β)) {e : Event ι ρ β}
    (he : e.client ≠ c) : project c (log ++ [e]) = project c log := by
  simp [project, he]

/-- The events of a client are the rounds `rs` and the part of a round it is in. -/
def InRound (c : ι) (p : Phase ρ) (l : List (Event ι ρ β)) : Prop :=
  ∃ rs : List ρ, rs.length = p.done ∧ l = rounds val c rs ++ partialRound c p

omit [DecidableEq ι] in
/-- One phase change appends its event to the client's events. The first three
events of a round complete its part, the fourth makes it a complete one. -/
theorem InRound.move {p p' : Phase ρ} {e : Event ι ρ β} {l : List (Event ι ρ β)}
    (h : InRound val e.client p l) (hm : Rendezvous.move val p e = some p') :
    InRound val e.client p' (l ++ [e]) := by
  obtain ⟨rs, hlen, rfl⟩ := h
  cases p <;> cases e <;> simp only [Rendezvous.move, Option.ite_none_right_eq_some,
    Option.some.injEq, reduceCtorEq] at hm
  case idle.submit k c k' =>
    obtain ⟨rfl, rfl⟩ := hm
    exact ⟨rs, hlen, by simp [partialRound, Event.client]⟩
  case submitted.start k c k' =>
    obtain ⟨rfl, rfl⟩ := hm
    exact ⟨rs, hlen, by simp [partialRound, Event.client]⟩
  case running.finish k c k' r =>
    obtain ⟨rfl, rfl⟩ := hm
    exact ⟨rs, hlen, by simp [partialRound, Event.client]⟩
  case finished.ret k r c k' b =>
    -- the round is complete: its result joins the list
    obtain ⟨⟨rfl, rfl⟩, rfl⟩ := hm
    simp only [Phase.done] at hlen
    refine ⟨rs ++ [r], by simp [hlen, Phase.done], ?_⟩
    simp [rounds_concat, round, partialRound, Event.client, hlen]

/-- **Rounds.** In every run from the start, each client's events are complete
rounds in the order of submission, then the part of the round it is in. -/
theorem exec_rounds {log : List (Event ι ρ β)} {s : ι → Phase ρ}
    (h : Lts.Exec (step val) Lts.Any (fun _ => .idle 0) log s) (c : ι) :
    InRound val c (s c) (project c log) := by
  induction h with
  | nil => exact ⟨[], rfl, rfl⟩
  | @snoc log s s' e _ _ hs ih =>
    obtain ⟨p, hp, rfl⟩ := Option.map_eq_some_iff.mp hs
    by_cases hc : e.client = c
    · subst hc
      rw [project_concat_self _ _ rfl, Function.update_self]
      exact ih.move val hp
    · rw [project_concat_ne _ _ hc, Function.update_of_ne (Ne.symm hc)]
      exact ih

end Rendezvous
