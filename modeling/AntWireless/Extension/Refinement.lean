import AntWireless.Extension.Model

/-!
# AntWireless — the extension refines its specification

With the library's receive thread as the only caller of `rant_callback` and no abort request,
the threads of the extension do to the channels and to what is known about the device what
`eventStep` and `sessionStep` do, one event or response at a time.

* `OneProducer` — the protocol as the receive thread sees it.
* `Ok` — the invariant: what the receive thread's callback points to, and how far its function
  has come.
* `Follows` — one step: the invariant is kept and the specification follows.
-/

namespace AntWireless.Extension

open Callbacks (NodePtr HandlerAt phase)
open Channel (Event EventState EventAction Flight ObjId eventStep)
open Response (ResponseMessage Session SessionAction sessionStep)

-- ---------------------------------------------------------------------------
-- The protocol
-- ---------------------------------------------------------------------------

/-- The protocol without abort requests where only `t₀` has called. -/
def OneProducer (t₀ : Nat) (p : Callbacks.State) : Prop :=
  Callbacks.ReceiveOk t₀ (⟨p, (), fun _ => ()⟩ : Callbacks.Receive Unit)

section Protocol

variable {t₀ : Nat} {p p' : Callbacks.State} {n : NodePtr} {i : Nat}

theorem oneProducer_init (t₀ : Nat) : OneProducer t₀ Callbacks.init :=
  Callbacks.receiveOk_init t₀ () fun _ => ()

/-- **Step.** Only the receive thread calls. -/
theorem OneProducer.step {a : Callbacks.Action} (h : OneProducer t₀ p) (hq : a ≠ .unblockerCall)
    (hcall : ∀ t, a = .call t → t = t₀) (hs : Callbacks.step p a = some p') :
    OneProducer t₀ p' := by
  by_cases ha : a = .call t₀
  · subst ha
    refine Callbacks.receiveOk_step (a := .proto (.call t₀)) h (by simp [Callbacks.ReceiveQuiet]) ?_
    simp only [Callbacks.receiveStep, if_true, hs, Option.map_some]
  · exact Callbacks.ReceiveOk.proto h hq hs fun t ht => ha (hcall t ht ▸ ht)

/-- A call: the receive thread was outside, and its callback waits. -/
theorem OneProducer.phase_call (h : OneProducer t₀ p)
    (hs : Callbacks.step p (.call t₀) = some p') :
    phase p t₀ = .idle (p.producers t₀).calls ∧
    phase p' t₀ = .submitted (p.producers t₀).calls := by
  obtain ⟨hen, rfl⟩ := Callbacks.step_eq_some.mp hs
  have hidle : phase p t₀ = .idle (p.producers t₀).calls := if_pos hen
  refine ⟨hidle, ?_⟩
  obtain ⟨ph, hmove, hph⟩ := Option.map_eq_some_iff.mp (Callbacks.sim_call h.calm hen)
  rw [Rendezvous.Event.client, hidle, Rendezvous.move, if_pos rfl, Option.some.injEq] at hmove
  rw [← hph, Rendezvous.Event.client, Function.update_self, hmove]

/-- A handler that has not ended is that of the call the receive thread is in,
the only one of its node; and moving it moves the receive thread's phase. -/
theorem OneProducer.handler {pc : Callbacks.HandlerPc} (h : OneProducer t₀ p)
    (hi : HandlerAt p n i pc) (hpc : ∀ r, pc ≠ .exited r) :
    n = ⟨t₀, (p.producers t₀).calls⟩ ∧ i = 0 ∧ phase p t₀ = Callbacks.handlerPhase n.call [pc] ∧
      ∀ pc', phase (p.setHandler n i pc') t₀ = Callbacks.handlerPhase n.call [pc'] := by
  obtain ⟨rfl, hAt, hFits⟩ := (h.calm.node n).handed hi
  obtain ⟨hc, hout⟩ := hFits.inside hpc
  obtain ⟨t, c⟩ := n
  have htid : t = t₀ := by
    by_contra hne
    exact hout (h.single t hne)
  subst htid
  refine ⟨?_, rfl, (Callbacks.phase_setHandler pc hAt hc hout).1, fun pc' => ?_⟩
  · rw [show (p.producers t).calls = c from hc]
  · rw [(Callbacks.phase_setHandler pc' hAt hc hout).2]
    exact Function.update_self ..

/-- The start of `callback->fn`. -/
theorem OneProducer.phase_run (h : OneProducer t₀ p)
    (hs : Callbacks.step p (.handlerRun n i) = some p') :
    n = ⟨t₀, n.call⟩ ∧ i = 0 ∧ phase p t₀ = .submitted n.call ∧ phase p' t₀ = .running n.call := by
  obtain ⟨hen, rfl⟩ := Callbacks.step_eq_some.mp hs
  obtain ⟨hn, hi, hold, hnew⟩ := h.handler hen (by simp)
  exact ⟨by rw [hn], hi, hold, hnew .running⟩

/-- Inside `callback->fn`. -/
theorem OneProducer.phase_running (h : OneProducer t₀ p) (hi : HandlerAt p n i .running) :
    n = ⟨t₀, n.call⟩ ∧ i = 0 ∧ phase p t₀ = .running n.call := by
  obtain ⟨hn, hi, hold, -⟩ := h.handler hi (by simp)
  exact ⟨by rw [hn], hi, hold⟩

/-- The end of `callback->fn`. -/
theorem OneProducer.phase_end {r : FnResult} (h : OneProducer t₀ p)
    (hs : Callbacks.step p (.handlerEnd n i r) = some p') :
    n = ⟨t₀, n.call⟩ ∧ i = 0 ∧ phase p t₀ = .running n.call ∧ phase p' t₀ = .finished n.call r := by
  obtain ⟨hen, rfl⟩ := Callbacks.step_eq_some.mp hs
  obtain ⟨hn, hi, hold, hnew⟩ := h.handler hen (by simp)
  exact ⟨by rw [hn], hi, hold, hnew (.ended r)⟩

/-- The other steps of the protocol do not show in the phase, but for the
return, which ends the call: the function has ended before that. -/
theorem OneProducer.phase_internal {a : Callbacks.Action} (h : OneProducer t₀ p)
    (ha : isInternal a = true) (hq : a ≠ .unblockerCall) (hs : Callbacks.step p a = some p') :
    phase p' t₀ = phase p t₀ ∨
      ∃ k r, phase p t₀ = .finished k r ∧ phase p' t₀ = .idle (k + 1) := by
  have hmatch := Callbacks.protocol_refines_rendezvous p a p' h.calm hq hs
  cases hobs : Callbacks.observe p a with
  | none =>
    rw [hobs] at hmatch
    exact .inl (congrFun hmatch t₀)
  | some e =>
    rw [hobs] at hmatch
    rcases Rendezvous.step_client _ hmatch t₀ with hsame | ⟨-, hmove⟩
    · exact .inl hsame
    · cases a with
      | ret t =>
        obtain rfl := Option.some.inj hobs
        cases hph : phase p t₀ with
        | finished k r =>
          rw [hph, Rendezvous.move] at hmove
          obtain ⟨-, hmove⟩ := Option.ite_none_right_eq_some.mp hmove
          exact .inr ⟨k, r, rfl, (Option.some.inj hmove).symm⟩
        | _ =>
          rw [hph] at hmove
          cases hmove
      | call t | handlerRun n i | handlerEnd n i r => cases ha
      | _ => cases hobs

/-- The thread that a running phase stands for. -/
theorem running_calls {c : Nat} (h : phase p t₀ = .running c) :
    c = (p.producers t₀).calls ∧ 0 < (p.handlers ⟨t₀, c⟩).length := by
  rw [phase] at h
  split at h
  · cases h
  · unfold Callbacks.handlerPhase at h
    split at h
    · rename_i hh
      obtain rfl := Rendezvous.Phase.running.inj h
      refine ⟨rfl, ?_⟩
      rw [show p.handlers ⟨t₀, (p.producers t₀).calls⟩ = _ from hh]
      exact Nat.succ_pos _
    all_goals cases h

end Protocol

-- ---------------------------------------------------------------------------
-- The job of the receive thread
-- ---------------------------------------------------------------------------

section Jobs

variable {t₀ c k : Nat} {x : State} {f : Frame} {b : Body} {j : Option (Nat × Flight)}
  {g g' : Flight}

theorem job_submitted (hph : phase x.proto t₀ = .submitted c) (hf : x.frames ⟨t₀, c⟩ = some f) :
    x.job t₀ = some (f, none) := by
  simp only [State.job, hph, hf, Option.map_some]

theorem job_running (hph : phase x.proto t₀ = .running c) (hf : x.frames ⟨t₀, c⟩ = some f)
    (hb : x.bodies (⟨t₀, c⟩, 0) = some b) : x.job t₀ = some (f, some b) := by
  simp only [State.job, hph, hf, hb, Option.bind_some, Option.map_some]

theorem job_idle (hph : phase x.proto t₀ = .idle c) : x.job t₀ = none := by
  simp only [State.job, hph]

/-- A function that has ended is no job any more, although its call has yet to
return. -/
theorem job_finished {r : FnResult} (hph : phase x.proto t₀ = .finished c r) :
    x.job t₀ = none := by
  simp only [State.job, hph]

/-- The job is read off the phase and the stacks. -/
theorem job_congr {x' : State} (hph : phase x'.proto t₀ = phase x.proto t₀)
    (hframes : x'.frames = x.frames) (hbodies : x'.bodies = x.bodies) : x'.job t₀ = x.job t₀ := by
  rw [State.job, State.job, hph, hframes, hbodies]

theorem flightsOf_eq_some : flightsOf j k = some g ↔ j = some (k, g) := by
  cases j with
  | none => simp [flightsOf]
  | some y =>
    obtain ⟨k', g'⟩ := y
    by_cases hk : k = k'
    · subst hk
      simp [flightsOf]
    · simp [flightsOf, Function.update_of_ne hk, Ne.symm hk]

theorem update_flightsOf : Function.update (flightsOf (some (k, g))) k (some g') =
    flightsOf (some (k, g')) := Function.update_idem ..

theorem update_flightsOf_none :
    Function.update (flightsOf (some (k, g))) k none = flightsOf none := by
  have hidem : Function.update (flightsOf (some (k, g))) k none =
      Function.update (fun _ => none) k none := Function.update_idem ..
  rw [hidem]
  exact Function.update_eq_self k fun _ => none

/-- An event in a block: the receive thread's callback is running, and its
thread has come as far as the block. -/
theorem running_of_flight {e : Event} {o : ObjId} {tx : Bool}
    (h : (x.job t₀).bind flightOf = some (k, ⟨e, .running o tx⟩)) :
    ∃ c, phase x.proto t₀ = .running c ∧ x.bodies (⟨t₀, c⟩, 0) = some (.block o tx) := by
  obtain ⟨⟨f, b⟩, hj, hflight⟩ := Option.bind_eq_some_iff.mp h
  unfold State.job at hj
  split at hj
  · -- in the queue
    obtain ⟨f', -, hf'⟩ := Option.map_eq_some_iff.mp hj
    obtain ⟨rfl, rfl⟩ := Prod.mk.inj hf'
    cases f' with
    | event k' e' => simp [flightOf] at hflight
    | response m => cases hflight
  · rename_i c hph
    obtain ⟨f', -, hb⟩ := Option.bind_eq_some_iff.mp hj
    obtain ⟨b', hbody, hb'⟩ := Option.map_eq_some_iff.mp hb
    obtain ⟨rfl, rfl⟩ := Prod.mk.inj hb'
    refine ⟨c, hph, ?_⟩
    cases f' with
    | response m => cases hflight
    | event k' e' =>
      cases b' with
      | block o' tx' =>
        simp only [flightOf, Option.some.injEq, Prod.mk.injEq, Flight.mk.injEq,
          Channel.Phase.running.injEq] at hflight
        obtain ⟨-, -, rfl, rfl⟩ := hflight
        exact hbody
      | responding | ended r => cases hflight
  · cases hj

/-- The specification's state, from the job. -/
theorem abstraction_eq {o : Option (Frame × Option Body)} (h : x.job t₀ = o) :
    abstraction t₀ x = (⟨x.chan, flightsOf (o.bind flightOf), x.nextEvent⟩,
      x.session (o.bind callOf)) := by
  rw [abstraction, h]

theorem idle_abstraction (h : x.job t₀ = none) : Idle (abstraction t₀ x) := by
  rw [abstraction_eq h]
  exact ⟨fun _ => rfl, rfl⟩

end Jobs

-- ---------------------------------------------------------------------------
-- The invariant
-- ---------------------------------------------------------------------------

/-- The callback of the `c`-th call waits for its function, or that is running. -/
def Handling (t₀ : Nat) (x : State) (c : Nat) : Prop :=
  phase x.proto t₀ = .submitted c ∨ phase x.proto t₀ = .running c

/-- What the receive thread's callback points to stands on its stack, and its
function is the only one in a block. -/
structure Ok (t₀ : Nat) (x : State) : Prop where
  one : OneProducer t₀ x.proto
  frame : ∀ c, Handling t₀ x c → ∃ f, x.frames ⟨t₀, c⟩ = some f
  number : ∀ c k e, Handling t₀ x c → x.frames ⟨t₀, c⟩ = some (.event k e) → k < x.nextEvent
  body : ∀ c, phase x.proto t₀ = .running c → ∃ b, x.bodies (⟨t₀, c⟩, 0) = some b
  block : ∀ n i o tx, x.bodies (n, i) = some (.block o tx) → n = ⟨t₀, n.call⟩ ∧ i = 0 ∧
    phase x.proto t₀ = .running n.call ∧ ∃ k e, x.frames n = some (.event k e)

/-- A step keeps the invariant, and the specification follows. -/
def Follows (t₀ : Nat) (x : State) (a : Action) (x' : State) : Prop :=
  Ok t₀ x' ∧
    match observe x a with
    | some b => OneAtATime (abstraction t₀ x) b ∧
      Lts.beside eventStep sessionStep (abstraction t₀ x) b = some (abstraction t₀ x')
    | none => abstraction t₀ x' = abstraction t₀ x

section Steps

variable {t₀ : Nat} {x x' : State}

theorem ok_init (t₀ : Nat) : Ok t₀ init where
  one := oneProducer_init t₀
  frame c h := by simp [Handling, init, Callbacks.phase_init] at h
  number c k e h := by simp [Handling, init, Callbacks.phase_init] at h
  body c h := by simp [init, Callbacks.phase_init] at h
  block n i o tx h := by simp [init] at h

theorem Ok.congr (h : Ok t₀ x) (hproto : x'.proto = x.proto) (hframes : x'.frames = x.frames)
    (hbodies : x'.bodies = x.bodies) (hnext : x'.nextEvent = x.nextEvent) : Ok t₀ x' := by
  obtain ⟨hone, hframe, hnumber, hbody, hblock⟩ := h
  constructor
  · rwa [hproto]
  · unfold Handling at hframe ⊢
    rwa [hproto, hframes]
  · unfold Handling at hnumber ⊢
    rwa [hproto, hframes, hnext]
  · rwa [hproto, hbodies]
  · rwa [hproto, hframes, hbodies]

/-- The running function moves on: its thread's stack is the only one that
changes, so there is still one thread in a block at most. -/
theorem Ok.setBody {c : Nat} {b : Body} (h : Ok t₀ x) (hproto : x'.proto = x.proto)
    (hframes : x'.frames = x.frames) (hnext : x'.nextEvent = x.nextEvent)
    (hbodies : x'.bodies = Function.update x.bodies (⟨t₀, c⟩, 0) (some b))
    (hph : phase x.proto t₀ = .running c)
    (hb : ∀ o tx, b = .block o tx → ∃ k e, x.frames ⟨t₀, c⟩ = some (.event k e)) : Ok t₀ x' := by
  obtain ⟨hone, hframe, hnumber, hbody, hblock⟩ := h
  constructor
  · rwa [hproto]
  · unfold Handling at hframe ⊢
    rwa [hproto, hframes]
  · unfold Handling at hnumber ⊢
    rwa [hproto, hframes, hnext]
  · intro c' hc'
    rw [hproto, hph] at hc'
    obtain rfl := Rendezvous.Phase.running.inj hc'
    exact ⟨b, by rw [hbodies, Function.update_self]⟩
  · intro n i o tx hn
    rw [hproto, hframes]
    rw [hbodies] at hn
    by_cases hni : (n, i) = (⟨t₀, c⟩, 0)
    · obtain ⟨rfl, rfl⟩ := Prod.mk.inj hni
      rw [Function.update_self, Option.some.injEq] at hn
      exact ⟨rfl, rfl, hph, hb o tx hn⟩
    · rw [Function.update_of_ne hni] at hn
      exact hblock n i o tx hn

/-- The objects in whose block a thread is: on the threads' stacks and in the
specification they are the same. -/
theorem Ok.pinned_iff (h : Ok t₀ x) {o : ObjId} :
    x.pinned t₀ o = true ↔ (abstraction t₀ x).1.pinned o = true := by
  rw [State.pinned, EventState.pinned, decide_eq_true_iff, decide_eq_true_iff]
  constructor
  · rintro ⟨c, -, i, -, tx, hb⟩
    obtain ⟨-, rfl, hph, k, e, hf⟩ := h.block _ _ _ _ hb
    refine ⟨k, h.number c k e (.inr hph) hf, ⟨e, .running o tx⟩, ?_, tx, rfl⟩
    rw [abstraction_eq (job_running hph hf hb)]
    exact flightsOf_eq_some.mpr rfl
  · rintro ⟨k, -, f, hf, tx, hrun⟩
    obtain ⟨e, ph⟩ := f
    obtain rfl : ph = .running o tx := hrun
    obtain ⟨c, hph, hb⟩ := running_of_flight (flightsOf_eq_some.mp hf)
    obtain ⟨hc, hlen⟩ := running_calls hph
    exact ⟨c, hc ▸ Nat.lt_succ_self _, 0, hlen, tx, hb⟩

/-- The collector spares the same objects as the specification's. -/
theorem Ok.collectsPinned_eq (h : Ok t₀ x) (a : Channel.Action) :
    x.collectsPinned t₀ a = (abstraction t₀ x).1.collectsPinned a := by
  cases a with
  | gc o => exact Bool.eq_iff_iff.mpr h.pinned_iff
  | _ => rfl

/-- An operation of the program is one of the specification's. -/
theorem follows_ruby {a : Channel.Action} (h : Ok t₀ x) (hs : step t₀ x (.ruby a) = some x') :
    Follows t₀ x (.ruby a) x' := by
  rw [step] at hs
  split at hs
  · cases hs
  · rename_i hpin
    obtain ⟨c, hc, rfl⟩ := Option.map_eq_some_iff.mp hs
    refine ⟨h.congr rfl rfl rfl rfl, trivial, Lts.beside_inl.mpr ⟨?_, rfl⟩⟩
    rw [eventStep, if_neg (by rwa [← h.collectsPinned_eq]),
      show (abstraction t₀ x).1.chan = x.chan from rfl, hc]
    rfl

/-- Setting the block for responses is an operation of the specification too. -/
theorem follows_onResponse {block : Option Response.ResponseBlock} (h : Ok t₀ x)
    (hs : step t₀ x (.onResponse block) = some x') : Follows t₀ x (.onResponse block) x' := by
  cases block with
  | none =>
    obtain rfl : x = x' := Option.some.inj hs
    exact ⟨h, trivial, Lts.beside_inr.mpr ⟨rfl, rfl⟩⟩
  | some b =>
    obtain rfl := Option.some.inj hs
    exact ⟨h.congr rfl rfl rfl rfl, trivial, Lts.beside_inr.mpr ⟨rfl, rfl⟩⟩

/-- A call of `rant_callback` with what it points to on the stack. The job
before was none, as the receive thread was outside; the job now is a callback
whose function has not started. -/
theorem Ok.call {p : Callbacks.State} {f : Frame} (h : Ok t₀ x)
    (hs : Callbacks.step x.proto (.call t₀) = some p) (hproto : x'.proto = p)
    (hframes : x'.frames = Function.update x.frames (x.proto.current t₀) (some f))
    (hbodies : x'.bodies = x.bodies) (hnumber : ∀ k e, f = .event k e → k < x'.nextEvent) :
    Ok t₀ x' ∧ x.job t₀ = none ∧ x'.job t₀ = some (f, none) := by
  obtain ⟨hidle, hsub⟩ := h.one.phase_call hs
  rw [← hproto] at hsub
  have hf : x'.frames ⟨t₀, (x.proto.producers t₀).calls⟩ = some f := by
    rw [hframes]
    exact Function.update_self ..
  have hcall : ∀ c, Handling t₀ x' c → c = (x.proto.producers t₀).calls := by
    rintro c (hc | hc)
    · rw [hsub] at hc
      exact (Rendezvous.Phase.submitted.inj hc).symm
    · rw [hsub] at hc
      cases hc
  refine ⟨⟨?_, ?_, ?_, ?_, ?_⟩, job_idle hidle, job_submitted hsub hf⟩
  · rw [hproto]
    exact h.one.step (by simp) (fun t ht => (Callbacks.Action.call.inj ht).symm) hs
  · intro c hc
    exact ⟨f, hcall c hc ▸ hf⟩
  · intro c k e hc hfe
    rw [hcall c hc, hf, Option.some.injEq] at hfe
    exact hnumber k e hfe
  · intro c hc
    rw [hsub] at hc
    cases hc
  · intro n i o tx hb
    rw [hbodies] at hb
    obtain ⟨-, -, hrun, -⟩ := h.block n i o tx hb
    rw [hidle] at hrun
    cases hrun

/-- The report of an event is the specification's: the library writes the
buffer, and the event is in flight under the next number. -/
theorem follows_event {n ucEvent : UInt8} {bytes : Channel.EventBytes} (h : Ok t₀ x)
    (hs : step t₀ x (.event n ucEvent bytes) = some x') :
    Follows t₀ x (.event n ucEvent bytes) x' := by
  rw [step] at hs
  obtain ⟨o, hfn, hs⟩ := Option.bind_eq_some_iff.mp hs
  obtain ⟨ch, ho, hs⟩ := Option.bind_eq_some_iff.mp hs
  obtain ⟨p, hp, rfl⟩ := Option.map_eq_some_iff.mp hs
  refine And.imp id ?_ (h.call hp rfl rfl rfl ?_)
  · rintro ⟨hidle, hjob⟩
    refine ⟨idle_abstraction hidle, Lts.beside_inl.mpr ⟨?_, ?_⟩⟩
    · rw [abstraction_eq hidle, abstraction_eq hjob]
      have hbusy : ¬ EventState.busy ⟨x.chan, flightsOf none, x.nextEvent⟩ o = true := by
        intro hb
        obtain ⟨k, -, f, hf, -⟩ := of_decide_eq_true hb
        cases hf
      rw [Option.bind_none, eventStep, hfn, Option.bind_some, if_neg hbusy, ho]
      rfl
    · rw [abstraction_eq hidle, abstraction_eq hjob]
      rfl
  · intro k e hf
    obtain ⟨rfl, -⟩ := Frame.event.inj hf
    exact Nat.lt_succ_self _

/-- The report of a response is the specification's as well. -/
theorem follows_response {m : ResponseMessage} (h : Ok t₀ x)
    (hs : step t₀ x (.response m) = some x') : Follows t₀ x (.response m) x' := by
  obtain ⟨hassigned, hs⟩ := Option.ite_none_right_eq_some.mp hs
  obtain ⟨p, hp, rfl⟩ := Option.map_eq_some_iff.mp hs
  refine And.imp id ?_ (h.call hp rfl rfl rfl (by simp))
  rintro ⟨hidle, hjob⟩
  refine ⟨idle_abstraction hidle, Lts.beside_inr.mpr ⟨?_, ?_⟩⟩
  · rw [abstraction_eq hidle, abstraction_eq hjob]
    show (if x.assigned = true ∧ none = none then _ else none) = _
    rw [if_pos ⟨hassigned, rfl⟩]
    rfl
  · rw [abstraction_eq hidle, abstraction_eq hjob]
    rfl

/-- The start of `callback->fn`, in the thread created for the callback of the
job. The thread is the only one that has not ended, so the job is its
callback, now with a body. -/
theorem Ok.enter {p : Callbacks.State} {n : NodePtr} {i : Nat} {f : Frame} {b : Body}
    (h : Ok t₀ x) (hs : Callbacks.step x.proto (.handlerRun n i) = some p)
    (hf : x.frames n = some f) (hproto : x'.proto = p) (hframes : x'.frames = x.frames)
    (hnext : x'.nextEvent = x.nextEvent)
    (hbodies : x'.bodies = Function.update x.bodies (n, i) (some b))
    (hb : ∀ o tx, b = .block o tx → ∃ k e, f = .event k e) :
    Ok t₀ x' ∧ x.job t₀ = some (f, none) ∧ x'.job t₀ = some (f, some b) := by
  obtain ⟨hn, rfl, hsub, hrun⟩ := h.one.phase_run hs
  obtain ⟨t, c⟩ := n
  obtain rfl : t = t₀ := congrArg NodePtr.tid hn
  rw [← hproto] at hrun
  have hbody : x'.bodies (⟨t, c⟩, 0) = some b := by
    rw [hbodies, Function.update_self]
  have hcall : ∀ c', Handling t x' c' → c' = c := by
    rintro c' (hc | hc)
    · rw [hrun] at hc
      cases hc
    · rw [hrun] at hc
      exact (Rendezvous.Phase.running.inj hc).symm
  refine ⟨⟨?_, ?_, ?_, ?_, ?_⟩, job_submitted hsub hf, job_running hrun (hframes ▸ hf) hbody⟩
  · rw [hproto]
    exact h.one.step (by simp) (by simp) hs
  · intro c' hc
    rw [hcall c' hc, hframes]
    exact ⟨f, hf⟩
  · intro c' k e hc hfe
    rw [hcall c' hc, hframes] at hfe
    rw [hnext]
    exact h.number c k e (.inl hsub) hfe
  · intro c' hc
    rw [hcall c' (.inr hc)]
    exact ⟨b, hbody⟩
  · intro n i o tx hn
    rw [hbodies] at hn
    by_cases hni : (n, i) = (⟨t, c⟩, 0)
    · obtain ⟨rfl, rfl⟩ := Prod.mk.inj hni
      rw [Function.update_self, Option.some.injEq] at hn
      obtain ⟨k, e, rfl⟩ := hb o tx hn
      exact ⟨rfl, rfl, hrun, k, e, hframes ▸ hf⟩
    · rw [Function.update_of_ne hni] at hn
      obtain ⟨-, -, hph, -⟩ := h.block n i o tx hn
      rw [hsub] at hph
      cases hph

/-- `rant_channel_call_event_callback` is what the specification does at the
start: the same lookup, and then the call of the block, the cleared buffer, or
the exception. -/
theorem eventStep_start {c c' : Channel.State} {k m : Nat} {e : Event} {b : Body}
    (h : rantChannelCallEventCallback c e.ucANTChannel e.ucEvent = some (c', b)) :
    eventStep ⟨c, flightsOf (some (k, ⟨e, .queued⟩)), m⟩ (.start k) =
      some ⟨c', flightsOf (flightOf (.event k e, some b)), m⟩ := by
  have hk : flightsOf (some (k, ⟨e, .queued⟩)) k = some ⟨e, .queued⟩ := flightsOf_eq_some.mpr rfl
  unfold rantChannelCallEventCallback at h
  simp only [eventStep, hk]
  cases hfetch : Channel.fetchChannel c e.ucANTChannel with
  | error err =>
    rw [hfetch] at h
    cases h
    simp only [EventState.land, update_flightsOf_none]
    rfl
  | ok o =>
    rw [hfetch] at h
    obtain ⟨ch, ho, hb⟩ := Option.map_eq_some_iff.mp h
    simp only [ho, Option.map_some]
    cases hcb : ch.callback with
    | none =>
      rw [hcb] at hb
      cases hb
      simp only [EventState.land, update_flightsOf_none]
      rfl
    | some block =>
      rw [hcb] at hb
      cases hb
      simp only [update_flightsOf]
      rfl

/-- `rant_call_response_callback` is what the specification does of a response. -/
theorem sessionStep_handle (x : State) (depth : Nat) (m : ResponseMessage) :
    sessionStep (x.session (some m)) (.handle depth x.chan) =
      some { x.session none with info := (rantCallResponseCallback x depth m).1 } := by
  simp only [sessionStep, State.session, rantCallResponseCallback, Option.map_some]
  cases x.callback <;> rfl

/-- The start of the function is the handler's lookup, or the whole handling
of a response, by what the callback of the job points to. -/
theorem follows_enter {n : NodePtr} {i depth : Nat} (h : Ok t₀ x)
    (hs : step t₀ x (.enter n i depth) = some x') : Follows t₀ x (.enter n i depth) x' := by
  rw [step] at hs
  obtain ⟨p, hp, hs⟩ := Option.bind_eq_some_iff.mp hs
  cases hf : x.frames n with
  | none =>
    rw [hf] at hs
    cases hs
  | some f =>
    rw [hf] at hs
    cases f with
    | event k e =>
      obtain ⟨⟨c, b⟩, hfn, rfl⟩ := Option.map_eq_some_iff.mp hs
      rw [Follows, observe, hf]
      refine And.imp id ?_ (h.enter hp hf rfl rfl rfl rfl fun _ _ _ => ⟨k, e, rfl⟩)
      rintro ⟨hold, hnew⟩
      refine ⟨trivial, Lts.beside_inl.mpr ⟨?_, ?_⟩⟩
      · rw [abstraction_eq hold, abstraction_eq hnew]
        exact eventStep_start hfn
      · rw [abstraction_eq hold, abstraction_eq hnew]
        rfl
    | response m =>
      obtain rfl := Option.some.inj hs
      rw [Follows, observe, hf]
      refine And.imp id ?_ (h.enter hp hf rfl rfl rfl rfl ?_)
      · rintro ⟨hold, hnew⟩
        refine ⟨rfl, Lts.beside_inr.mpr ⟨?_, ?_⟩⟩
        · rw [abstraction_eq hold, abstraction_eq hnew]
          exact sessionStep_handle x depth m
        · rw [abstraction_eq hold, abstraction_eq hnew]
          rfl
      · intro o tx hb
        unfold rantCallResponseCallback at hb
        split at hb <;> cases hb

/-- The running function moves on. -/
theorem Ok.move {n : NodePtr} {i : Nat} {f : Frame} {b b' : Body} (h : Ok t₀ x)
    (hi : HandlerAt x.proto n i .running) (hf : x.frames n = some f)
    (hb : x.bodies (n, i) = some b) (hproto : x'.proto = x.proto) (hframes : x'.frames = x.frames)
    (hnext : x'.nextEvent = x.nextEvent)
    (hbodies : x'.bodies = Function.update x.bodies (n, i) (some b'))
    (hb' : ∀ o tx, b' = .block o tx → ∃ k e, f = .event k e) :
    Ok t₀ x' ∧ x.job t₀ = some (f, some b) ∧ x'.job t₀ = some (f, some b') := by
  obtain ⟨hn, rfl, hrun⟩ := h.one.phase_running hi
  obtain ⟨t, c⟩ := n
  obtain rfl : t = t₀ := congrArg NodePtr.tid hn
  refine ⟨?_, job_running hrun hf hb, job_running (hproto ▸ hrun) (hframes ▸ hf) ?_⟩
  · refine h.setBody hproto hframes hnext hbodies hrun fun o tx hblock => ?_
    obtain ⟨k, e, rfl⟩ := hb' o tx hblock
    exact ⟨k, e, hf⟩
  · rw [hbodies, Function.update_self]

/-- The second lookup, of `on_event_tx`: it finds a channel and the block goes
on, or the exception ends the event. -/
theorem follows_lookupTx {n : NodePtr} {i : Nat} (h : Ok t₀ x)
    (hs : step t₀ x (.lookupTx n i) = some x') : Follows t₀ x (.lookupTx n i) x' := by
  obtain ⟨hi, hs⟩ := Option.ite_none_right_eq_some.mp hs
  split at hs
  · rename_i k e o hf hb
    have hk : flightsOf (some (k, ⟨e, .running o true⟩)) k = some ⟨e, .running o true⟩ :=
      flightsOf_eq_some.mpr rfl
    rw [Follows, observe, hf]
    cases hreg : x.chan.registry.lookup (Channel.int2fix e.ucANTChannel) with
    | none =>
      rw [hreg] at hs
      obtain rfl := Option.some.inj hs
      refine And.imp id ?_ (h.move hi hf hb rfl rfl rfl rfl (by simp))
      rintro ⟨hold, hnew⟩
      refine ⟨trivial, Lts.beside_inl.mpr ⟨?_, ?_⟩⟩
      · rw [abstraction_eq hold, abstraction_eq hnew]
        simp only [Option.bind_some, flightOf, eventStep, hk, hreg, EventState.land,
          update_flightsOf_none]
        rfl
      · rw [abstraction_eq hold, abstraction_eq hnew]
        rfl
    | some q =>
      rw [hreg] at hs
      obtain rfl := Option.some.inj hs
      refine And.imp id ?_ (h.move hi hf hb rfl rfl rfl rfl fun _ _ _ => ⟨k, e, rfl⟩)
      rintro ⟨hold, hnew⟩
      refine ⟨trivial, Lts.beside_inl.mpr ⟨?_, ?_⟩⟩
      · rw [abstraction_eq hold, abstraction_eq hnew]
        simp only [Option.bind_some, flightOf, eventStep, hk, hreg, update_flightsOf]
        rfl
      · rw [abstraction_eq hold, abstraction_eq hnew]
        rfl
  · cases hs

/-- The end of the block, which clears the buffer if it is a return. The event
is over for the specification, although the call has yet to come back. -/
theorem follows_finish {n : NodePtr} {i : Nat} {r : FnResult} (h : Ok t₀ x)
    (hs : step t₀ x (.finish n i r) = some x') : Follows t₀ x (.finish n i r) x' := by
  obtain ⟨hi, hs⟩ := Option.ite_none_right_eq_some.mp hs
  split at hs
  · -- an event's block
    rename_i o hb
    obtain ⟨ch, ho, rfl⟩ := Option.map_eq_some_iff.mp hs
    obtain ⟨-, -, -, k, e, hf⟩ := h.block n i o false hb
    have hk : flightsOf (some (k, ⟨e, .running o false⟩)) k = some ⟨e, .running o false⟩ :=
      flightsOf_eq_some.mpr rfl
    rw [Follows, observe, hf, hb]
    refine And.imp id ?_ (h.move hi hf hb rfl rfl rfl rfl (by simp))
    rintro ⟨hold, hnew⟩
    refine ⟨trivial, Lts.beside_inl.mpr ⟨?_, ?_⟩⟩
    · rw [abstraction_eq hold, abstraction_eq hnew]
      simp only [Option.bind_some, flightOf, eventStep, hk, ho, Option.map_some, EventState.land,
        update_flightsOf_none]
      rfl
    · rw [abstraction_eq hold, abstraction_eq hnew]
      rfl
  · -- the response callback
    rename_i hb
    obtain rfl := Option.some.inj hs
    obtain ⟨hn, rfl, hrun⟩ := h.one.phase_running hi
    obtain ⟨f, hf⟩ := h.frame n.call (.inr hrun)
    rw [← hn] at hf
    have hmove : Ok t₀ (x.setBody n 0 (.ended r)) ∧ x.job t₀ = some (f, some .responding) ∧
        (x.setBody n 0 (.ended r)).job t₀ = some (f, some (.ended r)) :=
      h.move hi hf hb rfl rfl rfl rfl (by simp)
    have hobs : observe x (.finish n 0 r) = none := by
      simp only [observe, hf, hb]
    rw [Follows, hobs]
    refine hmove.imp id ?_
    rintro ⟨hold, hnew⟩
    rw [abstraction_eq hold, abstraction_eq hnew]
    cases f <;> rfl
  · cases hs

/-- The function of the callback ends, or the call returns, or the step does
not show in the phase. No thread is in a block where the phase has changed. -/
theorem Ok.proto {p : Callbacks.State} {a : Callbacks.Action} (h : Ok t₀ x)
    (hq : a ≠ .unblockerCall) (hcall : ∀ t, a ≠ .call t) (hs : Callbacks.step x.proto a = some p)
    (hph : phase p t₀ = phase x.proto t₀ ∨ (∃ c, phase p t₀ = .idle c) ∨
      ∃ c r, phase p t₀ = .finished c r) (hblock : phase p t₀ ≠ phase x.proto t₀ →
        ∀ n i o tx, x.bodies (n, i) ≠ some (.block o tx)) :
    Ok t₀ { x with proto := p } := by
  have hone := h.one.step hq (fun t ht => absurd ht (hcall t)) hs
  by_cases hsame : phase p t₀ = phase x.proto t₀
  · obtain ⟨-, hframe, hnumber, hbody, hblock⟩ := h
    unfold Handling at hframe hnumber
    rw [← hsame] at hframe hnumber hbody hblock
    exact ⟨hone, hframe, hnumber, hbody, hblock⟩
  · have hnot : ∀ c, phase p t₀ ≠ .submitted c ∧ phase p t₀ ≠ .running c := by
      intro c
      rcases hph with hph | ⟨c', hph⟩ | ⟨c', r, hph⟩
      · exact absurd hph hsame
      · rw [hph]
        simp
      · rw [hph]
        simp
    have hno : ∀ c, ¬ Handling t₀ { x with proto := p } c := by
      rintro c (hc | hc)
      · exact (hnot c).1 hc
      · exact (hnot c).2 hc
    exact ⟨hone, fun c hc => absurd hc (hno c), fun c k e hc => absurd hc (hno c),
      fun c hc => absurd hc (hnot c).2, fun n i o tx hb => absurd hb (hblock hsame n i o tx)⟩

/-- The end of the function does not show: the event or the response was over
before. -/
theorem follows_leave {n : NodePtr} {i : Nat} (h : Ok t₀ x)
    (hs : step t₀ x (.leave n i) = some x') : Follows t₀ x (.leave n i) x' := by
  rw [step] at hs
  split at hs
  · rename_i r hb
    obtain ⟨p, hp, rfl⟩ := Option.map_eq_some_iff.mp hs
    obtain ⟨hn, rfl, hrun, hfin⟩ := h.one.phase_end hp
    obtain ⟨f, hf⟩ := h.frame n.call (.inr hrun)
    refine ⟨h.proto (by simp) (by simp) hp (.inr (.inr ⟨_, _, hfin⟩)) ?_, ?_⟩
    · intro _ m j o tx hblock
      -- the function that ends is the only one, and in no block
      obtain ⟨hm, rfl, hrun', -⟩ := h.block m j o tx hblock
      rw [hrun, Rendezvous.Phase.running.injEq] at hrun'
      rw [hm, ← hrun', ← hn, hb] at hblock
      cases hblock
    · rw [hn] at hb
      have hnew : State.job { x with proto := p } t₀ = none := job_finished hfin
      rw [observe, abstraction_eq hnew, abstraction_eq (job_running hrun hf hb)]
      cases f <;> rfl
  · cases hs

/-- Every other step of the protocol does not show either: the job is as it
was, or is none before and after. -/
theorem follows_proto {a : Callbacks.Action} (h : Ok t₀ x) (hq : a ≠ .unblockerCall)
    (hs : step t₀ x (.proto a) = some x') : Follows t₀ x (.proto a) x' := by
  obtain ⟨ha, hs⟩ := Option.ite_none_right_eq_some.mp hs
  obtain ⟨p, hp, rfl⟩ := Option.map_eq_some_iff.mp hs
  have hcall : ∀ t, a ≠ .call t := by
    rintro t rfl
    cases ha
  rcases h.one.phase_internal ha hq hp with hsame | ⟨k, r, hfin, hidle⟩
  · have hjob : State.job { x with proto := p } t₀ = x.job t₀ := job_congr hsame rfl rfl
    refine ⟨h.proto hq hcall hp (.inl hsame) (absurd hsame), ?_⟩
    rw [observe, abstraction_eq hjob]
    rfl
  · refine ⟨h.proto hq hcall hp (.inr (.inl ⟨_, hidle⟩)) ?_, ?_⟩
    · intro _ n i o tx hb
      obtain ⟨-, -, hrun, -⟩ := h.block n i o tx hb
      rw [hfin] at hrun
      cases hrun
    · have hnew : State.job { x with proto := p } t₀ = none := job_idle hidle
      rw [observe, abstraction_eq hnew, abstraction_eq (job_finished hfin)]
      rfl

/-- **Step.** The specification follows every step without an abort request.
One case for each kind of action. -/
theorem follows_step {a : Action} (h : Ok t₀ x) (hq : Quiet x a) (hs : step t₀ x a = some x') :
    Follows t₀ x a x' := by
  cases a with
  | ruby a => exact follows_ruby h hs
  | onResponse block => exact follows_onResponse h hs
  | event n ucEvent bytes => exact follows_event h hs
  | response m => exact follows_response h hs
  | enter n i depth => exact follows_enter h hs
  | lookupTx n i => exact follows_lookupTx h hs
  | finish n i r => exact follows_finish h hs
  | leave n i => exact follows_leave h hs
  | proto a => exact follows_proto h (fun ha => hq (congrArg _ ha)) hs

end Steps

/-- **Refinement.** The specification simulates the extension: what a step
shows is a step of it, and a step that shows nothing leaves it where it is. -/
theorem extension_refines (t₀ : Nat) :
    Lts.Simulation (step t₀) (Lts.beside eventStep sessionStep) (abstraction t₀) observe (Ok t₀)
      Quiet := by
  intro x a x' h hq hs
  have hfollows := (follows_step h hq hs).2
  cases hobs : observe x a with
  | none =>
    rw [hobs] at hfollows
    exact hfollows
  | some b =>
    rw [hobs] at hfollows
    exact hfollows.2

theorem abstraction_init (t₀ : Nat) :
    abstraction t₀ init = (Channel.eventInit, Response.sessionInit) := rfl

/-- The log of a run is a run of the specification, in which everything is
handled one at a time. -/
theorem log_exec {t₀ : Nat} {as : List Action} {x : State}
    {log : List (EventAction ⊕ SessionAction)}
    (h : Lts.Exec (Lts.logged (step t₀) observe) (fun x a => Quiet x.1 a) (init, []) as (x, log)) :
    Lts.Exec (Lts.beside eventStep sessionStep) OneAtATime
      (Channel.eventInit, Response.sessionInit) log (abstraction t₀ x) := by
  rw [← abstraction_init t₀]
  refine (extension_refines t₀).exec_log_of ?_ (fun _ _ _ hI hg hs => (follows_step hI hg hs).1)
    (ok_init t₀) h
  intro x a x' b h hq hs hobs
  have hfollows := (follows_step h hq hs).2
  rw [hobs] at hfollows
  exact hfollows.1

end AntWireless.Extension
