import AntWireless.Callbacks.Progress
import AntWireless.Lib.Rendezvous

/-!
# AntWireless — handshake integrity

The callback protocol refines the rendezvous specification: for every producer, a
round is a call of `rant_callback`, the start of its function, the end of that
function with a result, and the return of the call with the truth of that very
result.

* `observe`, `phase` — the events of a run, and the abstraction.
* `protocol_refines_rendezvous` — the simulation.
* `Receive` — the protocol with the library's single receive thread and the
  buffers it shares with the callback functions.
* `handshake_integrity` — the events of each producer are complete rounds in
  order; with a single receive thread no two functions run at once, and each sees
  the buffers as the library left them for it.
-/

namespace AntWireless.Callbacks

open Rendezvous (Phase Event)

-- ---------------------------------------------------------------------------
-- The abstraction
-- ---------------------------------------------------------------------------

/-- What a step shows of the handshake. -/
def observe (s : State) : Action → Option (Event Nat FnResult Bool)
  | .call t => some (.submit t (s.producers t).calls)
  | .handlerRun n _ => some (.start n.tid n.call)
  | .handlerEnd n _ r => some (.finish n.tid n.call r)
  | .ret t => some (.ret t (s.producers t).calls (s.nodes (s.current t)).rval)
  | _ => none

/-- How far the handler threads of the `k`-th call have come. -/
def handlerPhase (k : Nat) : List HandlerPc → Phase FnResult
  | .running :: _ => .running k
  | .ended r :: _ | .locked r :: _ | .signalled r :: _ | .exited r :: _ => .finished k r
  | _ => .submitted k

/-- The phase of producer `t`. -/
def phase (s : State) (t : Nat) : Phase FnResult :=
  if (s.producers t).pc = .outside then .idle (s.producers t).calls
  else handlerPhase (s.producers t).calls (s.handlers (s.current t))

/-- A step that moves no producer out of or into `rant_callback`, and no
handler of a current node past a phase, leaves the abstraction alone. -/
theorem phase_congr {s s' : State}
    (hP : ∀ t, (s'.producers t).calls = (s.producers t).calls)
    (hout : ∀ t, (s'.producers t).pc = .outside ↔ (s.producers t).pc = .outside)
    (hh : ∀ n, handlerPhase n.call (s'.handlers n) = handlerPhase n.call (s.handlers n)) :
    phase s' = phase s := by
  funext t
  have ht := hh (s.current t)
  simp only [State.current] at ht
  simp only [phase, hout t, hP t, State.current, ht]

/-- A producer's moves inside its call do not show: its phase is that of its handler. -/
theorem phase_setProducer {s : State} {t : Nat} {pc : ProducerPc}
    (hout : (s.producers t).pc ≠ .outside) (hpc : pc ≠ .outside) :
    phase (s.setProducer t pc) = phase s := by
  apply phase_congr
  · intro u
    by_cases hu : u = t <;> simp [State.setProducer, hu]
  · intro u
    by_cases hu : u = t
    · subst hu
      simp [State.setProducer, hout, hpc]
    · simp [State.setProducer, Function.update_of_ne hu]
  · exact fun _ => rfl

/-- A handler's move, seen from the abstraction: the phase of the node's owner
is that of the node's only thread, before and after. -/
theorem phase_setHandler {s : State} {n : NodePtr} {pc : HandlerPc} (pc' : HandlerPc)
    (hAt : At s n (.handed pc)) (hc : (s.producers n.tid).calls = n.call)
    (hout : (s.producers n.tid).pc ≠ .outside) :
    phase s n.tid = handlerPhase n.call [pc] ∧
      phase (s.setHandler n 0 pc') =
        Function.update (phase s) n.tid (handlerPhase n.call [pc']) := by
  have hcur : s.current n.tid = n := by
    rw [State.current, hc]
  constructor
  · rw [phase, if_neg hout, hcur, hAt.handlers, hc]
    rfl
  · funext t
    by_cases ht : t = n.tid
    · subst ht
      rw [Function.update_self]
      simp [phase, State.setHandler, hout, State.current, hc, hAt.handlers, Place.handlers]
    · rw [Function.update_of_ne ht]
      have hne : s.current t ≠ n := by
        rintro rfl
        exact ht rfl
      simp only [phase, State.setHandler, State.current] at hne ⊢
      rw [Function.update_of_ne hne]
      rfl

/-- The owner of a node with an unfinished handler is inside its call. -/
theorem Fits.inside {n : NodePtr} {P : Producer} {c : RantCallback} {pc : HandlerPc}
    (h : Fits n P c (.handed pc)) (hpc : ∀ r, pc ≠ .exited r) :
    P.calls = n.call ∧ P.pc ≠ .outside := by
  have hawait : P.calls = n.call ∧ P.pc.awaiting = true := by
    cases pc with
    | exited r => exact absurd rfl (hpc r)
    | _ => exact ⟨h.1, h.2.1⟩
  refine ⟨hawait.1, ?_⟩
  intro hout
  rw [hout] at hawait
  cases hawait.2

/-- An owner that frees its node has seen `handled`: its handler has left the node. -/
theorem Fits.exited_of_cleanup {n : NodePtr} {P : Producer} {c : RantCallback} {p : Place}
    (h : Fits n P c p) (hc : P.calls = n.call) (hpc : P.pc = .cleanup) :
    ∃ r, p = .handed (.exited r) ∧ c.rval = r.truth := by
  have hawait : P.pc.awaiting ≠ true := by rw [hpc]; simp [ProducerPc.awaiting]
  cases p with
  | nowhere =>
    have hlt := h.lt_of_nowhere (by rw [hpc]; rfl)
    exact absurd hc (Nat.ne_of_lt hlt)
  | queued | waiting => exact absurd h.2.1 hawait
  | handed pc =>
    cases pc with
    | exited r =>
      rcases h with hlt | ⟨-, -, -, -, hrval, -⟩
      · exact absurd hc (Nat.ne_of_gt hlt)
      · exact ⟨r, rfl, hrval⟩
    | _ => exact absurd h.2.1 hawait

-- ---------------------------------------------------------------------------
-- Refinement
-- ---------------------------------------------------------------------------

/-- A call opens the producer's next round. Its node has not been used before,
so it has no handler thread, and the phase is that of a job which has been
submitted. -/
theorem sim_call {s : State} {t : Nat} (h : Calm s) (hpc : (s.producers t).pc = .outside) :
    Rendezvous.step FnResult.truth (phase s) (.submit t (s.producers t).calls) =
      some (phase (next s (.call t))) := by
  obtain ⟨p, hAt, hFits⟩ := h.node (s.current t)
  obtain rfl := hFits.nowhere_of_early rfl (Or.inl hpc)
  have hidle : phase s t = .idle (s.producers t).calls := by
    rw [phase, if_pos hpc]
  rw [Rendezvous.step, Event.client, hidle, Rendezvous.move, if_pos rfl, Option.map_some,
    Option.some.injEq]
  funext u
  by_cases hu : u = t
  · subst hu
    have hnil := hAt.handlers
    simp only [State.current] at hnil
    simp [phase, next, State.setProducer, State.setNode, State.current, hnil, Place.handlers,
      handlerPhase]
  · rw [Function.update_of_ne hu]
    simp [phase, next, State.setProducer, State.setNode, State.current, Function.update_of_ne hu]

/-- A return closes the round: its function has ended, as the owner frees its
node only after `handled`, and the value returned is the truth of the
function's result, which the handler left in the node. -/
theorem sim_ret {s : State} {t : Nat} (h : Calm s) (hpc : (s.producers t).pc = .cleanup) :
    Rendezvous.step FnResult.truth (phase s)
        (.ret t (s.producers t).calls (s.nodes (s.current t)).rval) =
      some (phase (next s (.ret t))) := by
  obtain ⟨p, hAt, hFits⟩ := h.node (s.current t)
  obtain ⟨r, rfl, hrval⟩ := hFits.exited_of_cleanup rfl hpc
  have hfin : phase s t = .finished (s.producers t).calls r := by
    rw [phase, if_neg (by simp [hpc]), hAt.handlers]
    rfl
  rw [Rendezvous.step, Event.client, hfin, Rendezvous.move, if_pos ⟨rfl, hrval⟩,
    Option.map_some, Option.some.injEq]
  funext u
  by_cases hu : u = t
  · subst hu
    simp [phase, next]
  · rw [Function.update_of_ne hu]
    simp [phase, next, State.current, Function.update_of_ne hu]

/-- The function of the round that its owner is in starts. -/
theorem sim_handlerRun {s : State} {n : NodePtr} {i : Nat} (h : Calm s)
    (hi : HandlerAt s n i .created) :
    Rendezvous.step FnResult.truth (phase s) (.start n.tid n.call) =
      some (phase (next s (.handlerRun n i))) := by
  obtain ⟨rfl, hAt, hFits⟩ := (h.node n).handed hi
  obtain ⟨hc, hout⟩ := hFits.inside (by simp)
  obtain ⟨hold, hnew⟩ := phase_setHandler .running hAt hc hout
  rw [next, hnew, Rendezvous.step, Event.client, hold]
  simp [handlerPhase, Rendezvous.move]

/-- The running function of a round ends, by a return or by an exception. -/
theorem sim_handlerEnd {s : State} {n : NodePtr} {i : Nat} {r : FnResult} (h : Calm s)
    (hi : HandlerAt s n i .running) :
    Rendezvous.step FnResult.truth (phase s) (.finish n.tid n.call r) =
      some (phase (next s (.handlerEnd n i r))) := by
  obtain ⟨rfl, hAt, hFits⟩ := (h.node n).handed hi
  obtain ⟨hc, hout⟩ := hFits.inside (by simp)
  obtain ⟨hold, hnew⟩ := phase_setHandler (.ended r) hAt hc hout
  rw [next, hnew, Rendezvous.step, Event.client, hold]
  simp [handlerPhase, Rendezvous.move]

/-- A handler's move within a phase: between its lock and its exit the
function has ended already. -/
theorem phase_setHandler_same {s : State} {n : NodePtr} {i : Nat} {pc : HandlerPc}
    (h : Calm s) (pc' : HandlerPc) (hi : HandlerAt s n i pc) (hpc : ∀ r, pc ≠ .exited r)
    (hsame : handlerPhase n.call [pc'] = handlerPhase n.call [pc]) :
    phase (s.setHandler n i pc') = phase s := by
  obtain ⟨rfl, hAt, hFits⟩ := (h.node n).handed hi
  obtain ⟨hc, hout⟩ := hFits.inside hpc
  obtain ⟨hold, hnew⟩ := phase_setHandler pc' hAt hc hout
  rw [hnew, hsame, ← hold, Function.update_eq_self]

/-- Unobserved steps leave the abstraction alone. They are the moves of the
mutexes and conditions, of the dispatcher and of the unblocking function, and
what a handler does once its function has ended. -/
theorem sim_silent {s : State} {a : Action} (h : Calm s) (hen : Enabled s a)
    (hobs : observe s a = none) : phase (next s a) = phase s := by
  cases a with
  | call t | ret t | handlerRun n i | handlerEnd n i r => cases hobs
  | lockQueue t => exact phase_setProducer (by simp [hen.1]) (by simp)
  | push t | unlockQueue t | signalQueue t | wakeSpuriously t | unlockNode t =>
    exact phase_setProducer (by rw [show (s.producers t).pc = _ from hen]; simp) (by simp)
  | lockNode t | relockNode t => exact phase_setProducer (by simp [hen.1]) (by simp)
  | testHandled t =>
    have hout : (s.producers t).pc ≠ .outside := by
      rw [show (s.producers t).pc = .testing from hen]
      simp
    rw [next]
    split
    · exact phase_setProducer hout (by simp)
    · exact phase_setProducer hout (by simp)
  | dispatcherTest =>
    rw [next, State.waitTest]
    split
    · split <;> rfl
    · rfl
  | dispatcherSpawn =>
    rw [next, State.spawn]
    split
    · -- the new thread has not started the function yet
      rename_i m hcb
      obtain ⟨p, hAt, -⟩ := h.node m
      have hpend : s.pending = some m := by
        rw [State.pending, show s.dispatcher = .back from hen, hcb]
      obtain rfl := hAt.pending.mp hpend
      apply phase_congr
      · exact fun _ => rfl
      · exact fun _ => Iff.rfl
      · intro n
        by_cases hn : n = m
        · subst hn
          simp [hAt.handlers, Place.handlers, handlerPhase]
        · simp [Function.update_of_ne hn]
    · rfl
  | handlerLock n i r => exact phase_setHandler_same h (.locked r) hen.1 (by simp) rfl
  | handlerUnlock n i r => exact phase_setHandler_same h (.exited r) hen (by simp) rfl
  | handlerComplete n i r =>
    obtain ⟨-, -, hFits⟩ := (h.node n).handed hen
    have hout := (hFits.inside (by simp)).2
    have hsame := phase_setHandler_same h (.signalled r) hen (by simp) rfl
    rw [← hsame]
    -- a signal moves the owner at most from `asleep` to `woken`
    refine phase_setProducer hout ?_
    split
    · simp
    · exact hout
  | _ => rfl

/-- **Refinement.** The protocol without abort requests is simulated by the
rendezvous specification: a step that shows an event is that step of the
specification, from the phases before to the phases after, and a step that
shows nothing leaves all phases as they are. -/
theorem protocol_refines_rendezvous :
    Lts.Simulation step (Rendezvous.step FnResult.truth) phase observe Calm Quiet := by
  intro s a s' h hq hs
  obtain ⟨hen, rfl⟩ := step_eq_some.mp hs
  cases hobs : observe s a with
  | none => exact sim_silent h hen hobs
  | some e =>
    cases a with
    | call t =>
      obtain rfl := Option.some.inj hobs
      exact sim_call h hen
    | ret t =>
      obtain rfl := Option.some.inj hobs
      exact sim_ret h hen
    | handlerRun n i =>
      obtain rfl := Option.some.inj hobs
      exact sim_handlerRun h hen
    | handlerEnd n i r =>
      obtain rfl := Option.some.inj hobs
      exact sim_handlerEnd h hen
    | _ => cases hobs

theorem phase_init : phase init = fun _ => .idle 0 := rfl

/-- The events of each producer are complete rounds, then the part of the
round it is in: the specification's rounds, carried over by the simulation. -/
theorem producer_rounds {as : List Action} {s : State} {log : List (Event Nat FnResult Bool)}
    (h : Lts.Exec (Lts.logged step observe) (fun x a => Quiet x.1 a) (init, []) as (s, log))
    (t : Nat) :
    Rendezvous.InRound FnResult.truth t (phase s t) (Rendezvous.project t log) := by
  have habs := protocol_refines_rendezvous.exec_log (fun _ _ _ hI hg hs => calm_step hI hg hs)
    calm_init h
  rw [phase_init] at habs
  exact Rendezvous.exec_rounds FnResult.truth habs t

-- ---------------------------------------------------------------------------
-- The single receive thread and its buffers
-- ---------------------------------------------------------------------------

/-- The protocol with the buffers the library shares with the callback
functions. `left n` is what the buffers held when `rant_callback` was called
for `n`. -/
structure Receive (μ : Type) where
  proto : State
  mem : μ
  left : NodePtr → μ

/-- The library writes a buffer, a callback function ends and leaves the
buffers as `m`, or the protocol takes any other step. -/
inductive ReceiveAction (μ : Type)
  | write (m : μ)
  | finish (n : NodePtr) (i : Nat) (r : FnResult) (m : μ)
  | proto (a : Action)
  deriving DecidableEq

/-- The receive thread `t₀` is the only producer; it writes outside `rant_callback`. -/
def receiveStep {μ : Type} (t₀ : Nat) (x : Receive μ) : ReceiveAction μ → Option (Receive μ)
  | .write m =>
    if (x.proto.producers t₀).pc = .outside then some { x with mem := m } else none
  | .finish n i r m =>
    (step x.proto (.handlerEnd n i r)).map fun s => { x with proto := s, mem := m }
  | .proto (.call t) =>
    if t = t₀ then
      (step x.proto (.call t)).map fun s =>
        { x with proto := s, left := Function.update x.left (x.proto.current t) x.mem }
    else none
  | .proto a => (step x.proto a).map fun s => { x with proto := s }

/-- No abort is requested. -/
def ReceiveQuiet {μ : Type} (_ : Receive μ) (a : ReceiveAction μ) : Prop :=
  a ≠ .proto .unblockerCall

instance {μ : Type} [DecidableEq μ] (x : Receive μ) (a : ReceiveAction μ) :
    Decidable (ReceiveQuiet x a) :=
  inferInstanceAs (Decidable (a ≠ _))

/-- Only the receive thread ever calls, and while its callback is not finished
the buffers are as the library left them for it. -/
structure ReceiveOk {μ : Type} (t₀ : Nat) (x : Receive μ) : Prop where
  calm : Calm x.proto
  single : ∀ t, t ≠ t₀ → (x.proto.producers t).pc = .outside
  intact : ∀ k, phase x.proto t₀ = .submitted k ∨ phase x.proto t₀ = .running k →
    x.mem = x.left ⟨t₀, k⟩

/-- Between rounds means outside `rant_callback`. -/
theorem phase_idle_iff {s : State} {t : Nat} :
    (∃ k, phase s t = .idle k) ↔ (s.producers t).pc = .outside := by
  rw [phase]
  constructor
  · rintro ⟨k, hk⟩
    by_contra hout
    rw [if_neg hout] at hk
    unfold handlerPhase at hk
    split at hk <;> cases hk
  · intro hout
    exact ⟨_, if_pos hout⟩

/-- Between two calls of producer `t`, its phase only moves forward within one
round: a function that waits or runs afterwards did so before, and a producer
outside its calls stays there. -/
theorem phase_step {s s' : State} {a : Action} {t : Nat} (h : Calm s) (hq : Quiet s a)
    (hs : step s a = some s') (ha : a ≠ .call t) :
    (∀ k, phase s' t = .submitted k ∨ phase s' t = .running k →
      phase s t = .submitted k ∨ phase s t = .running k) ∧
    (∀ k, phase s t = .idle k → phase s' t = .idle k) := by
  have hmatch := protocol_refines_rendezvous s a s' h hq hs
  cases hobs : observe s a with
  | none =>
    rw [hobs] at hmatch
    have ht := congrFun hmatch t
    rw [ht]
    exact ⟨fun _ hk => hk, fun _ hk => hk⟩
  | some e =>
    rw [hobs] at hmatch
    rcases Rendezvous.step_client _ hmatch t with hsame | ⟨hc, hmove⟩
    · rw [hsame]
      exact ⟨fun _ hk => hk, fun _ hk => hk⟩
    · cases a with
      | call u =>
        obtain rfl := Option.some.inj hobs
        exact absurd (congrArg Action.call hc) ha
      | ret u =>
        obtain rfl := Option.some.inj hobs
        cases hp : phase s t <;> rw [hp] at hmove <;> simp [Rendezvous.move] at hmove
        simp [← hmove.2]
      | handlerRun n i =>
        obtain rfl := Option.some.inj hobs
        cases hp : phase s t <;> rw [hp] at hmove <;> simp [Rendezvous.move] at hmove
        simp [← hmove.2]
      | handlerEnd n i r =>
        obtain rfl := Option.some.inj hobs
        cases hp : phase s t <;> rw [hp] at hmove <;> simp [Rendezvous.move] at hmove
        simp [← hmove.2]
      | _ => cases hobs

/-- The owner of a running function is the receive thread, and it is running:
the function is that of the call it is in. -/
theorem ReceiveOk.running {μ : Type} {t₀ : Nat} {x : Receive μ} (h : ReceiveOk t₀ x)
    {n : NodePtr} {i : Nat} (hi : HandlerAt x.proto n i .running) :
    i = 0 ∧ n = x.proto.current t₀ ∧ phase x.proto t₀ = .running n.call := by
  obtain ⟨rfl, hAt, hFits⟩ := (h.calm.node n).handed hi
  obtain ⟨hc, hout⟩ := hFits.inside (by simp)
  have htid : n.tid = t₀ := by
    by_contra hne
    exact hout (h.single n.tid hne)
  subst htid
  refine ⟨rfl, ?_, (phase_setHandler .running hAt hc hout).1⟩
  rw [State.current, hc]

/-- The protocol step of a receive step, other than a call, keeps what it must. -/
theorem ReceiveOk.proto {μ : Type} {t₀ : Nat} {x : Receive μ} {s : State} {a : Action}
    (h : ReceiveOk t₀ x) (hq : a ≠ .unblockerCall) (hs : step x.proto a = some s)
    (ha : ∀ t, a ≠ .call t) : ReceiveOk t₀ { x with proto := s } where
  calm := calm_step h.calm hq hs
  single t ht := by
    obtain ⟨k, hk⟩ := phase_idle_iff.mpr (h.single t ht)
    exact phase_idle_iff.mp ⟨k, (phase_step h.calm hq hs (ha t)).2 k hk⟩
  intact k hk := h.intact k ((phase_step h.calm hq hs (ha t₀)).1 k hk)

/-- **Step.** The library writes a buffer only outside `rant_callback`, where
nothing runs, and a function changes the buffers only as it ends; a call notes
how they are. So what a running function sees are the buffers as the call left
them. -/
theorem receiveOk_step {μ : Type} {t₀ : Nat} {x x' : Receive μ} {a : ReceiveAction μ}
    (h : ReceiveOk t₀ x) (hq : ReceiveQuiet x a) (hs : receiveStep t₀ x a = some x') :
    ReceiveOk t₀ x' := by
  cases a with
  | write m =>
    obtain ⟨hout, rfl⟩ := Option.ite_none_right_eq_some.mp hs |>.imp id Option.some.inj
    refine ⟨h.calm, h.single, fun k hk => ?_⟩
    obtain ⟨j, hj⟩ := phase_idle_iff.mpr hout
    rw [show phase _ t₀ = .idle j from hj] at hk
    simp at hk
  | finish n i r m =>
    obtain ⟨s, hst, rfl⟩ := Option.map_eq_some_iff.mp hs
    have hok := h.proto (by simp) hst (by simp)
    refine ⟨hok.calm, hok.single, fun k hk => ?_⟩
    -- the only running function has just ended
    obtain ⟨hen, rfl⟩ := step_eq_some.mp hst
    obtain ⟨rfl, hn, -⟩ := h.running hen
    obtain ⟨-, hAt, hFits⟩ := (h.calm.node n).handed hen
    obtain ⟨hc, hout⟩ := hFits.inside (by simp)
    have htid : n.tid = t₀ := by rw [hn]; rfl
    have hnew := congrFun (phase_setHandler (.ended r) hAt hc hout).2 n.tid
    rw [Function.update_self, htid] at hnew
    change phase (x.proto.setHandler n 0 (.ended r)) t₀ = _ ∨
      phase (x.proto.setHandler n 0 (.ended r)) t₀ = _ at hk
    rw [hnew] at hk
    simp [handlerPhase] at hk
  | proto a =>
    by_cases hcall : ∃ t, a = .call t
    · obtain ⟨t, rfl⟩ := hcall
      obtain ⟨rfl, hs'⟩ := Option.ite_none_right_eq_some.mp hs
      obtain ⟨s, hst, rfl⟩ := Option.map_eq_some_iff.mp hs'
      have hen : (x.proto.producers t).pc = .outside := (step_eq_some.mp hst).1
      have hsim := sim_call h.calm hen
      rw [← (step_eq_some.mp hst).2] at hsim
      obtain ⟨p, hp, hph⟩ := Option.map_eq_some_iff.mp hsim
      refine ⟨calm_step h.calm (by simp [Quiet]) hst, fun u hu => ?_, fun k hk => ?_⟩
      · apply phase_idle_iff.mp
        obtain ⟨j, hj⟩ := phase_idle_iff.mpr (h.single u hu)
        exact ⟨j, by rw [← hph, Event.client, Function.update_of_ne hu, hj]⟩
      · have hidle : phase x.proto t = .idle (x.proto.producers t).calls := by
          rw [phase, if_pos hen]
        rw [Event.client, hidle, Rendezvous.move, if_pos rfl, Option.some.injEq] at hp
        have hnew : phase s t = p := by
          rw [← hph, Event.client, Function.update_self]
        change phase s t = _ ∨ phase s t = _ at hk
        rw [hnew, ← hp] at hk
        obtain rfl : (x.proto.producers t).calls = k := by simpa using hk
        exact (Function.update_self (f := x.left) _ _).symm
    · have hne : ∀ t, a ≠ .call t := fun t ht => hcall ⟨t, ht⟩
      have hs' : (step x.proto a).map (fun s => { x with proto := s }) = some x' := by
        cases a <;> first | exact hs | exact absurd rfl (hne _)
      obtain ⟨s, hst, rfl⟩ := Option.map_eq_some_iff.mp hs'
      exact h.proto (fun e => hq (by rw [e])) hst hne

/-- Whatever the buffers hold at the start, nobody has called. -/
theorem receiveOk_init {μ : Type} (t₀ : Nat) (m : μ) (left : NodePtr → μ) :
    ReceiveOk t₀ ⟨init, m, left⟩ where
  calm := calm_init
  single _ _ := rfl
  intact k hk := by simp [phase_init] at hk

/-- **Handshake integrity.** In every run without an abort request:

* the events of each producer are rounds `submit k, start k, finish k r, ret k (truth r)`
  for `k = 0, 1, …`, the last one possibly not complete: a call returns only after its
  own function has ended, with the truth of that function's result, and the callbacks
  of one producer run one at a time in the order it submitted them;
* the truth of a result is that the function returned a truthy value;
* with a single receive thread at most one function runs at any time, and it sees the
  buffers as they were when `rant_callback` was called for it. -/
theorem handshake_integrity :
    (∀ as s log, Lts.Exec (Lts.logged step observe) (fun x a => Quiet x.1 a) (init, []) as
        (s, log) →
      ∀ t, Rendezvous.InRound FnResult.truth t (phase s t) (Rendezvous.project t log)) ∧
    (∀ r : FnResult, r.truth = true ↔ ∃ v, r = .returned v ∧ v.rtest = true) ∧
    (∀ (μ : Type) (m₀ : μ) (left : NodePtr → μ) (t₀ : Nat) as x,
      Lts.Exec (receiveStep t₀) ReceiveQuiet ⟨init, m₀, left⟩ as x →
      (∀ n i m j, HandlerAt x.proto n i .running → HandlerAt x.proto m j .running →
        n = m ∧ i = j) ∧
      (∀ n i, HandlerAt x.proto n i .running → x.mem = x.left n)) := by
  refine ⟨fun as s log h t => producer_rounds h t, ?_, ?_⟩
  · intro r
    cases r <;> simp [FnResult.truth, rbProtect, Value.rtest]
  · intro μ m₀ left t₀ as x h
    have hok := h.invariant (fun _ _ _ hI hg hs => receiveOk_step hI hg hs)
      (receiveOk_init t₀ m₀ left)
    constructor
    · intro n i m j hn hm
      obtain ⟨rfl, rfl, -⟩ := hok.running hn
      obtain ⟨rfl, rfl, -⟩ := hok.running hm
      exact ⟨rfl, rfl⟩
    · intro n i hn
      obtain ⟨-, hcur, hph⟩ := hok.running hn
      have hmem := hok.intact n.call (Or.inr hph)
      rwa [show (⟨t₀, n.call⟩ : NodePtr) = n by rw [hcur]; rfl] at hmem

/-- Two producers call, and the second one's callback is taken first. The
function of the first raises while the other one runs; its producer calls
again, and that function returns `true`. -/
def threeCalls : List Action :=
  [.call 0, .lockQueue 0, .push 0, .unlockQueue 0, .signalQueue 0,
   .call 1, .lockQueue 1, .push 1, .unlockQueue 1, .signalQueue 1, .lockNode 0, .testHandled 0,
   .dispatcherLoop, .dispatcherLock, .dispatcherTest, .dispatcherUnlock, .dispatcherReturn,
   .dispatcherSpawn,
   .dispatcherLoop, .dispatcherLock, .dispatcherTest, .dispatcherUnlock, .dispatcherReturn,
   .dispatcherSpawn,
   .handlerRun ⟨1, 0⟩ 0, .handlerRun ⟨0, 0⟩ 0, .handlerEnd ⟨0, 0⟩ 0 .raised,
   .handlerLock ⟨0, 0⟩ 0 .raised, .handlerComplete ⟨0, 0⟩ 0 .raised,
   .handlerUnlock ⟨0, 0⟩ 0 .raised,
   .relockNode 0, .testHandled 0, .unlockNode 0, .ret 0,
   .call 0, .lockQueue 0, .push 0, .unlockQueue 0, .signalQueue 0,
   .handlerEnd ⟨1, 0⟩ 0 (.returned .nil), .handlerLock ⟨1, 0⟩ 0 (.returned .nil),
   .handlerComplete ⟨1, 0⟩ 0 (.returned .nil), .handlerUnlock ⟨1, 0⟩ 0 (.returned .nil),
   .lockNode 1, .testHandled 1, .unlockNode 1, .ret 1,
   .dispatcherLoop, .dispatcherLock, .dispatcherTest, .dispatcherUnlock, .dispatcherReturn,
   .dispatcherSpawn,
   .handlerRun ⟨0, 1⟩ 0, .handlerEnd ⟨0, 1⟩ 0 (.returned .true),
   .handlerLock ⟨0, 1⟩ 0 (.returned .true), .handlerComplete ⟨0, 1⟩ 0 (.returned .true),
   .handlerUnlock ⟨0, 1⟩ 0 (.returned .true),
   .lockNode 0, .testHandled 0, .unlockNode 0, .ret 0]

/-- The receive thread writes 7 and calls; the function raises and clears the
buffer. It writes 8 and calls again, and that function has started. -/
def twoReceptions : List (ReceiveAction (List UInt8)) :=
  [.write [7]] ++
  ([.call 0, .lockQueue 0, .push 0, .unlockQueue 0, .signalQueue 0, .dispatcherLoop,
    .dispatcherLock, .dispatcherTest, .dispatcherUnlock, .dispatcherReturn, .dispatcherSpawn,
    .handlerRun ⟨0, 0⟩ 0] : List Action).map .proto ++
  [.finish ⟨0, 0⟩ 0 .raised [0]] ++
  ([.handlerLock ⟨0, 0⟩ 0 .raised, .handlerComplete ⟨0, 0⟩ 0 .raised,
    .handlerUnlock ⟨0, 0⟩ 0 .raised, .lockNode 0, .testHandled 0, .unlockNode 0,
    .ret 0] : List Action).map .proto ++
  [.write [8]] ++
  ([.call 0, .lockQueue 0, .push 0, .unlockQueue 0, .signalQueue 0, .dispatcherLoop,
    .dispatcherLock, .dispatcherTest, .dispatcherUnlock, .dispatcherReturn, .dispatcherSpawn,
    .handlerRun ⟨0, 1⟩ 0] : List Action).map .proto

/-- Two runs in full. In the first, producer 0 is in two calls, of which one
function raises, and producer 1 in one: the projections of the log are their
complete rounds. In the second a function runs, and sees what the library
wrote for it, behind one that raised and had cleared the buffer. -/
theorem handshake_integrity_rounds :
    (∃ s log, Lts.Exec (Lts.logged step observe) (fun x a => Quiet x.1 a) (init, []) threeCalls
        (s, log) ∧
      Rendezvous.project 0 log =
        [.submit 0 0, .start 0 0, .finish 0 0 .raised, .ret 0 0 false,
          .submit 0 1, .start 0 1, .finish 0 1 (.returned .true), .ret 0 1 true] ∧
      Rendezvous.project 1 log =
        [.submit 1 0, .start 1 0, .finish 1 0 (.returned .nil), .ret 1 0 false] ∧
      Rendezvous.InRound FnResult.truth 0 (phase s 0) (Rendezvous.project 0 log) ∧
      Rendezvous.InRound FnResult.truth 1 (phase s 1) (Rendezvous.project 1 log)) ∧
    ∃ x, Lts.Exec (receiveStep 0) ReceiveQuiet ⟨init, [], fun _ => []⟩ twoReceptions x ∧
      HandlerAt x.proto ⟨0, 1⟩ 0 .running ∧ x.left ⟨0, 1⟩ = [8] ∧ x.mem = x.left ⟨0, 1⟩ := by
  have hcalls : (Lts.runIf (Lts.logged step observe) (fun x a => decide (Quiet x.1 a)) (init, [])
      threeCalls).map (fun x => (Rendezvous.project 0 x.2, Rendezvous.project 1 x.2)) =
      some ([.submit 0 0, .start 0 0, .finish 0 0 .raised, .ret 0 0 false,
          .submit 0 1, .start 0 1, .finish 0 1 (.returned .true), .ret 0 1 true],
        [.submit 1 0, .start 1 0, .finish 1 0 (.returned .nil), .ret 1 0 false]) := by
    decide +kernel
  have hreceive : (Lts.runIf (receiveStep 0) (fun x a => decide (ReceiveQuiet x a))
      ⟨init, [], fun _ => []⟩ twoReceptions).map
        (fun x => ((x.proto.handlers ⟨0, 1⟩)[0]?, x.left ⟨0, 1⟩)) = some (some .running, [8]) := by
    decide +kernel
  obtain ⟨⟨s, log⟩, hrun, hlog⟩ := Lts.exec_of_checked hcalls
  obtain ⟨hzero, hone⟩ := Prod.mk.inj hlog
  obtain ⟨x, hexec, hval⟩ := Lts.exec_of_checked hreceive
  obtain ⟨hrunning, hleft⟩ := Prod.mk.inj hval
  have hrounds := handshake_integrity.1 _ _ _ hrun
  have hsees := (handshake_integrity.2.2 _ _ _ _ _ _ hexec).2
  exact ⟨⟨s, log, hrun, hzero, hone, hrounds 0, hrounds 1⟩, x, hexec, hrunning, hleft,
    hsees _ 0 hrunning⟩

end AntWireless.Callbacks
