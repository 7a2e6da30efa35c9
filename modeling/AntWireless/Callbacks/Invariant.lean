import AntWireless.Callbacks.Protocol
import AntWireless.Lib.Mutex

/-!
# AntWireless — the invariant of the callback protocol

Every node is in one place, and the place fits what its owner is doing:

* `Place`, `At` — where a callback is: nowhere, on the queue, in
  `waiting.callback` but not yet given to a thread, or in one handler thread.
* `Fits` — what each place says about the owner's program counter and about
  `handled`, `rval` and the mutex of the node.
* `Inv` — `NodeOk` for every node, who holds `rant_callback_mutex`, and what
  the dispatcher's program counter says about `waiting`.
* `inv_step`, `inv_exec` — one step and whole runs preserve it, as long as the
  abort flag is never raised over a stale `waiting.callback` (`StaleAbort`).
-/

namespace AntWireless.Callbacks

/-! ## Where a callback is -/

/-- Where a callback is. -/
inductive Place
  | nowhere
  | queued
  | waiting
  | handed (h : HandlerPc)
  deriving DecidableEq

/-- The handler threads of a callback in this place. -/
def Place.handlers : Place → List HandlerPc
  | .handed h => [h]
  | _ => []

/-- `waiting.callback` between the pop and the creation of its thread.
Elsewhere the field is left over from an earlier iteration. -/
def State.pending (s : State) : Option NodePtr :=
  match s.dispatcher with
  | .leaving | .unlocked | .back => s.waiting.callback
  | _ => none

/-- The callback of node `n` is in place `p` and nowhere else. -/
structure At (s : State) (n : NodePtr) (p : Place) : Prop where
  queue : s.queue.count n = if p = .queued then 1 else 0
  pending : s.pending = some n ↔ p = .waiting
  handlers : s.handlers n = p.handlers

/-- The owner has pushed and has not yet seen `handled`. -/
def ProducerPc.awaiting : ProducerPc → Bool
  | .pushed | .unlocked | .signalled | .testing | .asleep | .woken => true
  | _ => false

/-- The owner's hold on its own node. -/
def ProducerPc.hold : ProducerPc → Option NodeHolder
  | .testing | .handledSeen => some .producer
  | _ => none

/-- The owner waits, and nobody has touched the node since its initialisation. -/
def Untouched (P : Producer) (c : RantCallback) : Prop :=
  P.pc.awaiting = true ∧ c.handled = false ∧ c.mutex = P.pc.hold

/-- What the place of a callback says about its owner and its node. -/
def Fits (n : NodePtr) (P : Producer) (c : RantCallback) : Place → Prop
  | .nowhere =>
    P.calls < n.call ∨ (P.calls = n.call ∧ (P.pc = .outside ∨
      ((P.pc = .entered ∨ P.pc = .queueLocked) ∧ c.handled = false ∧ c.mutex = none)))
  | .queued | .waiting | .handed .created | .handed .running | .handed (.ended _) =>
    P.calls = n.call ∧ Untouched P c
  | .handed (.locked _) =>
    P.calls = n.call ∧ P.pc.awaiting = true ∧ P.pc ≠ .testing ∧
      c.handled = false ∧ c.mutex = some (.handler 0)
  | .handed (.signalled r) =>
    P.calls = n.call ∧ P.pc.awaiting = true ∧ P.pc ≠ .testing ∧ P.pc ≠ .asleep ∧
      c.handled = true ∧ c.rval = r.truth ∧ c.mutex = some (.handler 0)
  | .handed (.exited r) =>
    n.call < P.calls ∨ (P.calls = n.call ∧
      (P.pc.awaiting = true ∨ P.pc = .handledSeen ∨ P.pc = .cleanup) ∧ P.pc ≠ .asleep ∧
      c.handled = true ∧ c.rval = r.truth ∧ c.mutex = P.pc.hold)

/-- The node is in one place that fits its owner. -/
def NodeOk (s : State) (n : NodePtr) : Prop :=
  ∃ p, At s n p ∧ Fits n (s.producers n.tid) (s.nodes n) p

/-! ## The invariant -/

/-- Who holds `rant_callback_mutex`, and what the dispatcher's program counter
says about `waiting` and the queue. -/
structure MonitorOk (s : State) : Prop where
  producerLock : ∀ t, s.queueMutex = some (.producer t) ↔
    (s.producers t).pc = .queueLocked ∨ (s.producers t).pc = .pushed
  dispatcherLock : s.queueMutex = some .dispatcher ↔
    s.dispatcher = .testing ∨ s.dispatcher = .leaving
  unblockerLock : s.queueMutex = some .unblocker ↔
    s.unblocker = .locked ∨ s.unblocker = .aborted ∨ s.unblocker = .signalled
  asleepNull : s.dispatcher = .asleep ∨ s.dispatcher = .woken → s.waiting.callback = none
  abortNull : s.dispatcher = .inCall ∨ s.dispatcher = .testing → s.waiting.abort = true →
    s.waiting.callback = none
  signalComing : s.dispatcher = .asleep → ∀ n ∈ s.queue,
    (s.producers n.tid).pc = .pushed ∨ (s.producers n.tid).pc = .unlocked

/-- The invariant of the protocol. -/
structure Inv (s : State) : Prop extends MonitorOk s where
  node : ∀ n, NodeOk s n

/-- The abort flag is raised inside `rb_thread_call_without_gvl`, before the
`while` condition is first evaluated, over the pointer of an earlier
iteration. -/
def StaleAbort (s : State) (a : Action) : Prop :=
  a = .unblockerAbort ∧ s.dispatcher = .inCall ∧ s.waiting.callback ≠ none

/-- When the extension has been loaded the queue is empty, no mutex is held
and no callback is anywhere. -/
theorem inv_init : Inv init where
  producerLock t := by simp [init]
  dispatcherLock := by simp [init]
  unblockerLock := by simp [init]
  asleepNull := by simp [init]
  abortNull := by simp [init]
  signalComing := by simp [init]
  node n := by
    refine ⟨.nowhere, ⟨rfl, by simp [State.pending, init], rfl⟩, ?_⟩
    rcases Nat.eq_zero_or_pos n.call with h | h
    · exact Or.inr ⟨h.symm, Or.inl rfl⟩
    · exact Or.inl h

/-! ## The monitor -/

/-- The threads whose program counter says that they hold `rant_callback_mutex`. -/
def State.HoldsQueue (s : State) : QueueHolder → Prop
  | .producer t => (s.producers t).pc = .queueLocked ∨ (s.producers t).pc = .pushed
  | .dispatcher => s.dispatcher = .testing ∨ s.dispatcher = .leaving
  | .unblocker => s.unblocker = .locked ∨ s.unblocker = .aborted ∨ s.unblocker = .signalled

section Monitor

variable {s s' : State}

/-- The three clauses about the mutex say together that the threads whose
program counters claim `rant_callback_mutex` are exactly its holder. -/
theorem MonitorOk.owned (h : MonitorOk s) : Mutex.Owned s.queueMutex s.HoldsQueue
  | .producer t => h.producerLock t
  | .dispatcher => h.dispatcherLock
  | .unblocker => h.unblockerLock

/-- The converse, with the clauses that are not about the mutex: what a step
lemma has to show. -/
theorem monitorOk_of_owned (howned : Mutex.Owned s.queueMutex s.HoldsQueue)
    (hasleep : s.dispatcher = .asleep ∨ s.dispatcher = .woken → s.waiting.callback = none)
    (habort : s.dispatcher = .inCall ∨ s.dispatcher = .testing → s.waiting.abort = true →
      s.waiting.callback = none)
    (hsig : s.dispatcher = .asleep → ∀ n ∈ s.queue,
      (s.producers n.tid).pc = .pushed ∨ (s.producers n.tid).pc = .unlocked) : MonitorOk s :=
  ⟨fun t => howned (.producer t), howned .dispatcher, howned .unblocker, hasleep, habort, hsig⟩

/-- Moving producer `t` changes the claim of no thread but `t`'s. -/
theorem holdsQueue_producer {t : Nat} {P : Producer} {m : Option QueueHolder} {q : QueueHolder}
    (hq : q ≠ .producer t) :
    { s with producers := Function.update s.producers t P, queueMutex := m }.HoldsQueue q ↔
      s.HoldsQueue q := by
  cases q with
  | producer u =>
    have hu : u ≠ t := fun heq => hq (heq ▸ rfl)
    simp only [State.HoldsQueue, Function.update_of_ne hu]
  | dispatcher | unblocker => rfl

/-- Moving the dispatcher, with what it writes, changes no other thread's claim. -/
theorem holdsQueue_dispatcher {pc : DispatcherPc} {m : Option QueueHolder} {w : CallbackWaiting}
    {queue : List NodePtr} {q : QueueHolder} (hq : q ≠ .dispatcher) :
    { s with dispatcher := pc, queueMutex := m, waiting := w, queue := queue }.HoldsQueue q ↔
      s.HoldsQueue q := by
  cases q with
  | dispatcher => exact absurd rfl hq
  | producer u | unblocker => rfl

/-- Moving the unblocking function, with what it writes, changes no other
thread's claim. -/
theorem holdsQueue_unblocker {pc : UnblockerPc} {m : Option QueueHolder} {w : CallbackWaiting}
    {q : QueueHolder} (hq : q ≠ .unblocker) :
    { s with unblocker := pc, queueMutex := m, waiting := w }.HoldsQueue q ↔
      s.HoldsQueue q := by
  cases q with
  | unblocker => exact absurd rfl hq
  | producer u | dispatcher => rfl

/-- A callback on the queue of a sleeping dispatcher keeps its owner on the
way to the signal. -/
theorem MonitorOk.signalComing_producer (h : MonitorOk s) {t : Nat} {P : Producer}
    (hsig : (s.producers t).pc = .pushed ∨ (s.producers t).pc = .unlocked →
      P.pc = .pushed ∨ P.pc = .unlocked) (hd : s.dispatcher = .asleep) {n : NodePtr}
    (hn : n ∈ s.queue) :
    (Function.update s.producers t P n.tid).pc = .pushed ∨
      (Function.update s.producers t P n.tid).pc = .unlocked := by
  by_cases hu : n.tid = t
  · rw [hu, Function.update_self]
    exact hsig (hu ▸ h.signalComing hd n hn)
  · rw [Function.update_of_ne hu]
    exact h.signalComing hd n hn

/-- A producer that neither takes nor releases the queue's mutex, and does not
leave `pushed` or `unlocked` while the dispatcher sleeps. -/
theorem MonitorOk.moveProducer (h : MonitorOk s) (t : Nat) (P : Producer)
    (hlock : (P.pc = .queueLocked ∨ P.pc = .pushed) ↔
      ((s.producers t).pc = .queueLocked ∨ (s.producers t).pc = .pushed))
    (hsig : s.dispatcher = .asleep → (s.producers t).pc = .pushed ∨ (s.producers t).pc = .unlocked →
      P.pc = .pushed ∨ P.pc = .unlocked) :
    MonitorOk { s with producers := Function.update s.producers t P } := by
  refine monitorOk_of_owned (h.owned.keep fun q => ?_) h.asleepNull h.abortNull
    fun hd n hn => h.signalComing_producer (hsig hd) hd hn
  by_cases hq : q = .producer t
  · subst hq
    simpa only [State.HoldsQueue, Function.update_self] using hlock
  · exact holdsQueue_producer hq

/-- A dispatcher that neither takes nor releases the mutex. It goes to sleep
in no such step, so the owners' way to the signal is not asked for again. -/
theorem MonitorOk.moveDispatcher (h : MonitorOk s) (pc : DispatcherPc)
    (hlock : (pc = .testing ∨ pc = .leaving) ↔
      (s.dispatcher = .testing ∨ s.dispatcher = .leaving))
    (hasleep : pc = .asleep ∨ pc = .woken → s.waiting.callback = none)
    (habort : pc = .inCall ∨ pc = .testing → s.waiting.abort = true →
      s.waiting.callback = none)
    (hsig : pc = .asleep → s.dispatcher = .asleep) :
    MonitorOk { s with dispatcher := pc } := by
  refine monitorOk_of_owned (h.owned.keep fun q => ?_) hasleep habort
    fun hd => h.signalComing (hsig hd)
  by_cases hq : q = .dispatcher
  · subst hq
    exact hlock
  · exact holdsQueue_dispatcher hq

/-- The unblocking function where it neither takes nor releases the mutex. -/
theorem MonitorOk.moveUnblocker (h : MonitorOk s) (pc : UnblockerPc)
    (hlock : (pc = .locked ∨ pc = .aborted ∨ pc = .signalled) ↔
      (s.unblocker = .locked ∨ s.unblocker = .aborted ∨ s.unblocker = .signalled)) :
    MonitorOk { s with unblocker := pc } := by
  refine monitorOk_of_owned (h.owned.keep fun q => ?_) h.asleepNull h.abortNull h.signalComing
  by_cases hq : q = .unblocker
  · subst hq
    exact hlock
  · exact holdsQueue_unblocker hq

/-- The dispatcher takes the mutex to evaluate the `while` condition, after
entering the call or after waking up. With the abort flag set there must be no
pointer left over in `waiting`: the step that raised the flag was no stale
abort. -/
theorem MonitorOk.lockDispatcher (h : MonitorOk s) (hfree : s.queueMutex = none)
    (habort : s.waiting.abort = true → s.waiting.callback = none) :
    MonitorOk { s with dispatcher := .testing, queueMutex := some .dispatcher } := by
  have howned : Mutex.Owned none s.HoldsQueue := hfree ▸ h.owned
  refine monitorOk_of_owned (howned.take (.inl rfl) fun q hq => ?_) (by simp)
    (fun _ => habort) (by simp)
  exact holdsQueue_dispatcher hq

/-- `pthread_cond_signal` wakes the dispatcher if it sleeps; a signal that
finds it awake is lost, and loses nothing. -/
theorem MonitorOk.signalQueue (h : MonitorOk s) : MonitorOk s.signalQueue := by
  unfold State.signalQueue
  split
  · rename_i hd
    exact h.moveDispatcher .woken (by simp [hd]) (fun _ => h.asleepNull (.inl hd)) (by simp)
      (by simp)
  · exact h

theorem signalQueue_ne_asleep (s : State) : s.signalQueue.dispatcher ≠ .asleep := by
  show (if s.dispatcher = .asleep then DispatcherPc.woken else s.dispatcher) ≠ .asleep
  split
  · simp
  · assumption

/-- Evaluating the `while` condition. The dispatcher sleeps only over an empty
queue, with the mutex released; it leaves the loop with a node, or with the
flag set, holding the mutex. -/
theorem MonitorOk.waitTest (h : MonitorOk s) (hd : s.dispatcher = .testing) :
    MonitorOk s.waitTest := by
  have hheld : Mutex.Owned (some .dispatcher) s.HoldsQueue := by
    rw [← h.dispatcherLock.mpr (.inl hd)]
    exact h.owned
  -- the dispatcher leaves the loop with the mutex, whatever it takes off the queue
  have hleave : ∀ w queue,
      MonitorOk { s with waiting := w, queue := queue, dispatcher := .leaving } := by
    intro w queue
    refine monitorOk_of_owned (h.owned.keep fun q => ?_) (by simp) (by simp) (by simp)
    by_cases hq : q = .dispatcher
    · simp [hq, State.HoldsQueue, hd]
    · exact holdsQueue_dispatcher hq
  unfold State.waitTest
  split
  · cases s.queue with
    | nil =>
      have hsleep : MonitorOk { s with
          waiting := { s.waiting with callback := none }
          queue := [], dispatcher := .asleep, queueMutex := none } :=
        monitorOk_of_owned (hheld.release (by simp [State.HoldsQueue])
          fun q hq => holdsQueue_dispatcher hq) (fun _ => rfl) (fun _ _ => rfl) (by simp)
      exact hsleep
    | cons n rest => exact hleave _ _
  · exact hleave _ _

/-- **Monitor step.** Every action but a stale abort keeps the discipline of
`rant_callback_mutex` and of the dispatcher's wait. The cases are the threads
that can move the mutex; every other action is one of the moves above. -/
theorem monitor_step {a : Action} (h : MonitorOk s) (hen : Enabled s a)
    (hst : ¬ StaleAbort s a) : MonitorOk (next s a) := by
  cases a with
  | call t =>
    have hpc : (s.producers t).pc = .outside := hen
    have hs := h.moveProducer t ⟨.entered, (s.producers t).calls⟩ (by simp [hpc]) (by simp [hpc])
    exact ⟨hs.1, hs.2, hs.3, hs.4, hs.5, hs.6⟩
  | lockQueue t =>
    obtain ⟨hpc, hm⟩ := hen
    have howned : Mutex.Owned none s.HoldsQueue := hm ▸ h.owned
    refine monitorOk_of_owned (howned.take ?_ fun q hq => holdsQueue_producer hq)
      h.asleepNull h.abortNull fun hd n hn => h.signalComing_producer (by simp [hpc]) hd hn
    simp [State.HoldsQueue, next, State.setProducer]
  | push t =>
    have hpc : (s.producers t).pc = .queueLocked := hen
    have hs := h.moveProducer t ⟨.pushed, (s.producers t).calls⟩ (by simp [hpc]) (by simp [hpc])
    refine ⟨hs.1, hs.2, hs.3, hs.4, hs.5, fun hd n hn => ?_⟩
    rcases List.mem_cons.mp hn with rfl | hn
    · exact .inl (by simp [next, State.setProducer, State.current])
    · exact hs.signalComing hd n hn
  | unlockQueue t =>
    have hpc : (s.producers t).pc = .pushed := hen
    have hheld : Mutex.Owned (some (.producer t)) s.HoldsQueue := by
      rw [← (h.producerLock t).mpr (.inr hpc)]
      exact h.owned
    refine monitorOk_of_owned (hheld.release ?_
        fun q hq => holdsQueue_producer hq)
      h.asleepNull h.abortNull fun hd n hn => h.signalComing_producer (by simp) hd hn
    simp [State.HoldsQueue, next, State.setProducer]
  | signalQueue t =>
    have hpc : (s.producers t).pc = .unlocked := hen
    exact h.signalQueue.moveProducer t ⟨.signalled, (s.producers t).calls⟩
      (by simp [State.signalQueue, hpc]) fun hd => absurd hd (signalQueue_ne_asleep s)
  | lockNode t | relockNode t =>
    obtain ⟨hpc, -⟩ := hen
    have hs := h.moveProducer t ⟨.testing, (s.producers t).calls⟩ (by simp [hpc]) (by simp [hpc])
    exact ⟨hs.1, hs.2, hs.3, hs.4, hs.5, hs.6⟩
  | testHandled t =>
    have hpc : (s.producers t).pc = .testing := hen
    rw [next]
    split
    · have hs := h.moveProducer t ⟨.asleep, (s.producers t).calls⟩ (by simp [hpc]) (by simp [hpc])
      exact ⟨hs.1, hs.2, hs.3, hs.4, hs.5, hs.6⟩
    · exact h.moveProducer t _ (by simp [hpc]) (by simp [hpc])
  | wakeSpuriously t =>
    have hpc : (s.producers t).pc = .asleep := hen
    exact h.moveProducer t _ (by simp [hpc]) (by simp [hpc])
  | unlockNode t =>
    have hpc : (s.producers t).pc = .handledSeen := hen
    have hs := h.moveProducer t ⟨.cleanup, (s.producers t).calls⟩ (by simp [hpc]) (by simp [hpc])
    exact ⟨hs.1, hs.2, hs.3, hs.4, hs.5, hs.6⟩
  | ret t =>
    have hpc : (s.producers t).pc = .cleanup := hen
    exact h.moveProducer t _ (by simp [hpc]) (by simp [hpc])
  | dispatcherLoop =>
    have hpc : s.dispatcher = .loopTest := hen
    rw [next]
    split
    · rename_i hab
      exact h.moveDispatcher .inCall (by simp [hpc]) (by simp) (by simp [hab]) (by simp)
    · exact h.moveDispatcher .exited (by simp [hpc]) (by simp) (by simp) (by simp)
  | dispatcherLock =>
    obtain ⟨hpc, hm⟩ := hen
    exact h.lockDispatcher hm (h.abortNull (.inl hpc))
  | dispatcherRelock =>
    obtain ⟨hpc, hm⟩ := hen
    exact h.lockDispatcher hm fun _ => h.asleepNull (.inr hpc)
  | dispatcherTest => exact h.waitTest hen
  | dispatcherWakeSpuriously =>
    have hpc : s.dispatcher = .asleep := hen
    exact h.moveDispatcher .woken (by simp [hpc]) (fun _ => h.asleepNull (.inl hpc)) (by simp)
      (by simp)
  | dispatcherUnlock =>
    have hpc : s.dispatcher = .leaving := hen
    have hheld : Mutex.Owned (some .dispatcher) s.HoldsQueue := by
      rw [← h.dispatcherLock.mpr (.inr hpc)]
      exact h.owned
    exact monitorOk_of_owned (hheld.release (by simp [State.HoldsQueue, next])
      fun q hq => holdsQueue_dispatcher hq) (by simp [next]) (by simp [next])
      (by simp [next])
  | dispatcherReturn =>
    have hpc : s.dispatcher = .unlocked := hen
    exact h.moveDispatcher .back (by simp [hpc]) (by simp) (by simp) (by simp)
  | dispatcherSpawn =>
    have hpc : s.dispatcher = .back := hen
    have hs := h.moveDispatcher .loopTest (by simp [hpc]) (by simp) (by simp) (by simp)
    rw [next, State.spawn]
    split
    · exact ⟨hs.1, hs.2, hs.3, hs.4, hs.5, hs.6⟩
    · exact hs
  | unblockerCall =>
    obtain ⟨hpc, -⟩ := hen
    exact h.moveUnblocker .called (by simp [hpc])
  | unblockerLock =>
    obtain ⟨hpc, hm⟩ := hen
    have howned : Mutex.Owned none s.HoldsQueue := hm ▸ h.owned
    exact monitorOk_of_owned (howned.take (.inl rfl)
      fun q hq => holdsQueue_unblocker hq) h.asleepNull h.abortNull h.signalComing
  | unblockerAbort =>
    have hpc : s.unblocker = .locked := hen
    refine monitorOk_of_owned (h.owned.keep fun q => ?_) h.asleepNull ?_ h.signalComing
    · by_cases hq : q = .unblocker
      · simp [hq, State.HoldsQueue, next, hpc]
      · exact holdsQueue_unblocker hq
    · rintro (hd | hd) -
      · by_contra hcb
        exact hst ⟨rfl, hd, hcb⟩
      · -- the dispatcher does not hold the mutex, so it is not testing
        have hholds : s.HoldsQueue .dispatcher := Or.inl hd
        have hholds' : s.HoldsQueue .unblocker := Or.inl hpc
        cases h.owned.unique hholds hholds'
  | unblockerSignal =>
    have hpc : s.unblocker = .aborted := hen
    exact h.signalQueue.moveUnblocker .signalled (by simp [State.signalQueue, hpc])
  | unblockerUnlock =>
    have hpc : s.unblocker = .signalled := hen
    have hheld : Mutex.Owned (some .unblocker) s.HoldsQueue := by
      rw [← h.unblockerLock.mpr (.inr (.inr hpc))]
      exact h.owned
    exact monitorOk_of_owned (hheld.release (by simp [State.HoldsQueue, next])
      fun q hq => holdsQueue_unblocker hq) h.asleepNull h.abortNull h.signalComing
  | handlerRun n i | handlerEnd n i r | handlerLock n i r | handlerUnlock n i r =>
    exact ⟨h.1, h.2, h.3, h.4, h.5, h.6⟩
  | handlerComplete n i r =>
    have hs := h.moveProducer n.tid
      ⟨if (s.producers n.tid).pc = .asleep ∧ (s.producers n.tid).calls = n.call then .woken
        else (s.producers n.tid).pc, (s.producers n.tid).calls⟩ ?_ ?_
    · exact ⟨hs.1, hs.2, hs.3, hs.4, hs.5, hs.6⟩
    · dsimp only
      split
      · rename_i hp
        simp [hp.1]
      · rfl
    · intro _ hp
      rw [if_neg]
      · exact hp
      · rintro ⟨ha, -⟩
        simp [ha] at hp

end Monitor

/-! ## Frame lemmas -/

/-- A callback's place is read off the queue, the pending pointer and the
node's handler threads. -/
theorem At.frame {s s' : State} {n : NodePtr} {p : Place} (h : At s n p)
    (hq : s'.queue.count n = s.queue.count n)
    (hp : s'.pending = some n ↔ s.pending = some n)
    (hh : s'.handlers n = s.handlers n) : At s' n p :=
  ⟨hq.trans h.queue, hp.trans h.pending, hh.trans h.handlers⟩

/-- A node of another call of the same thread does not look at its program
counter: what it says about the owner is whether its call is over. -/
theorem Fits.otherCall {n : NodePtr} {P : Producer} {c : RantCallback} {p : Place}
    (h : Fits n P c p) (hne : P.calls ≠ n.call) (pc : ProducerPc) :
    Fits n { P with pc := pc } c p := by
  cases p with
  | handed hp => cases hp <;> simp_all [Fits]
  | _ => simp_all [Fits]

/-- A step that leaves alone everything a node's place is read off, the node
itself and its owner. -/
theorem NodeOk.frame {s s' : State} {n : NodePtr} (h : NodeOk s n)
    (hq : s'.queue.count n = s.queue.count n)
    (hp : s'.pending = some n ↔ s.pending = some n)
    (hh : s'.handlers n = s.handlers n) (hn : s'.nodes n = s.nodes n)
    (hP : s'.producers n.tid = s.producers n.tid) : NodeOk s' n := by
  obtain ⟨p, hAt, hFits⟩ := h
  exact ⟨p, hAt.frame hq hp hh, by rwa [hn, hP]⟩

/-- Moving producer `t` concerns the node of its current call alone. -/
theorem NodeOk.setProducer_ne {s : State} {n : NodePtr} {t : Nat} (h : NodeOk s n)
    (pc : ProducerPc) (hne : n ≠ s.current t) : NodeOk (s.setProducer t pc) n := by
  obtain ⟨p, hAt, hFits⟩ := h
  refine ⟨p, ⟨hAt.queue, hAt.pending, hAt.handlers⟩, ?_⟩
  by_cases ht : n.tid = t
  · subst ht
    have hcall : (s.producers n.tid).calls ≠ n.call := by
      intro hc
      exact hne (by cases n; simp_all [State.current])
    simpa [State.setProducer] using hFits.otherCall hcall pc
  · simpa [State.setProducer, Function.update_of_ne ht] using hFits

theorem NodeOk.setNode_ne {s : State} {n m : NodePtr} {c : RantCallback}
    (h : NodeOk s n) (hne : n ≠ m) : NodeOk (s.setNode m c) n :=
  h.frame rfl Iff.rfl rfl (Function.update_of_ne hne _ _) rfl

theorem NodeOk.setHandler_ne {s : State} {n m : NodePtr} {i : Nat} {pc : HandlerPc}
    (h : NodeOk s n) (hne : n ≠ m) : NodeOk (s.setHandler m i pc) n :=
  h.frame rfl Iff.rfl (Function.update_of_ne hne _ _) rfl rfl

/-! ## What the owner's moves do to the fit -/

/-- The owner has pushed its node. -/
def ProducerPc.submitted : ProducerPc → Bool
  | .outside | .entered | .queueLocked => false
  | _ => true

theorem submitted_of_awaiting {pc : ProducerPc} (h : pc.awaiting = true) :
    pc.submitted = true := by
  cases pc <;> first | rfl | cases h

section Fits

variable {n : NodePtr} {P P' : Producer} {c c' : RantCallback} {p : Place}

/-- A node that is nowhere belongs to a later call than the one its owner has pushed. -/
theorem Fits.lt_of_nowhere (h : Fits n P c .nowhere) (hpc : P.pc.submitted = true) :
    P.calls < n.call := by
  rcases h with hlt | ⟨-, he | ⟨he | he, -⟩⟩
  · exact hlt
  all_goals
    rw [he] at hpc
    cases hpc

/-- The owner of a node that is somewhere has pushed it, or the call is over. -/
theorem Fits.submitted (h : Fits n P c p) (hp : p ≠ .nowhere) (hc : P.calls = n.call) :
    P.pc.submitted = true := by
  cases p with
  | nowhere => exact absurd rfl hp
  | queued | waiting => exact submitted_of_awaiting h.2.1
  | handed pc =>
    cases pc with
    | exited r =>
      rcases h with hlt | ⟨-, ha | hs | hs, -⟩
      · exact absurd hc (Nat.ne_of_gt hlt)
      · exact submitted_of_awaiting ha
      · rw [hs]
        rfl
      · rw [hs]
        rfl
    | _ => exact submitted_of_awaiting h.2.1

/-- A node nobody has submitted yet is nowhere. -/
theorem Fits.nowhere_of_early (h : Fits n P c p) (hc : P.calls = n.call)
    (hpc : P.pc = .outside ∨ P.pc = .entered ∨ P.pc = .queueLocked) : p = .nowhere := by
  by_contra hp
  have hsub := h.submitted hp hc
  rcases hpc with he | he | he <;> rw [he] at hsub <;> cases hsub

/-- The five things a place can say about the owner and the node: a step that
moves the owner or writes the node keeps the fit in all places if it keeps
these five. -/
theorem Fits.move (h : Fits n P c p) (hnowhere : Fits n P c .nowhere → Fits n P' c' .nowhere)
    (huntouched : P.calls = n.call ∧ Untouched P c → P'.calls = n.call ∧ Untouched P' c')
    (hlocked : ∀ r, Fits n P c (.handed (.locked r)) → Fits n P' c' (.handed (.locked r)))
    (hsignalled : ∀ r, Fits n P c (.handed (.signalled r)) →
      Fits n P' c' (.handed (.signalled r)))
    (hexited : ∀ r, Fits n P c (.handed (.exited r)) → Fits n P' c' (.handed (.exited r))) :
    Fits n P' c' p := by
  cases p with
  | nowhere => exact hnowhere h
  | queued | waiting => exact huntouched h
  | handed hp =>
    cases hp with
    | created | running | ended r => exact huntouched h
    | locked r => exact hlocked r h
    | signalled r => exact hsignalled r h
    | exited r => exact hexited r h

/-- Moves of a waiting owner that leave its node alone. Falling asleep is not
one of them: an owner may sleep only while `handled` is not set. -/
theorem Fits.quiet {pc : ProducerPc} (h : Fits n P c p) (ha : P.pc.awaiting = true)
    (hh : P.pc.hold = none) (ha' : pc.awaiting = true) (hh' : pc.hold = none)
    (hne : pc ≠ .asleep) : Fits n { P with pc := pc } c p := by
  have ht : pc ≠ .testing := by
    rintro rfl
    cases hh'
  refine h.move ?_ ?_ ?_ ?_ ?_
  · intro hnow
    exact .inl (hnow.lt_of_nowhere (submitted_of_awaiting ha))
  · rintro ⟨hcalls, -, hhandled, hmutex⟩
    exact ⟨hcalls, ha', hhandled, by rw [hmutex, hh, hh']⟩
  · rintro r ⟨hcalls, -, -, hrest⟩
    exact ⟨hcalls, ha', ht, hrest⟩
  · rintro r ⟨hcalls, -, -, -, hrest⟩
    exact ⟨hcalls, ha', ht, hne, hrest⟩
  · rintro r (hlt | ⟨hcalls, -, -, hhandled, hrval, hmutex⟩)
    · exact .inl hlt
    · exact .inr ⟨hcalls, .inl ha', hne, hhandled, hrval, by rw [hmutex, hh, hh']⟩

/-- The owner takes its node's mutex, for the first test of `handled` or for
one after a wake-up: no handler is between its lock and its unlock. -/
theorem Fits.lockNode (h : Fits n P c p) (hpc : P.pc = .signalled ∨ P.pc = .woken)
    (hm : c.mutex = none) :
    Fits n { P with pc := .testing } { c with mutex := some .producer } p := by
  have hsub : P.pc.submitted = true := by rcases hpc with hpc | hpc <;> rw [hpc] <;> rfl
  refine h.move ?_ ?_ ?_ ?_ ?_
  · intro hnow
    exact .inl (hnow.lt_of_nowhere hsub)
  · rintro ⟨hcalls, -, hhandled, -⟩
    exact ⟨hcalls, rfl, hhandled, rfl⟩
  · rintro r ⟨-, -, -, -, hmutex⟩
    cases hm.symm.trans hmutex
  · rintro r ⟨-, -, -, -, -, -, hmutex⟩
    cases hm.symm.trans hmutex
  · rintro r (hlt | ⟨hcalls, -, -, hhandled, hrval, -⟩)
    · exact .inl hlt
    · exact .inr ⟨hcalls, .inl rfl, by simp, hhandled, hrval, rfl⟩

/-- The owner finds `handled` not set, and sleeps. As it held the mutex, no
handler is past its write of `handled`: the signal is still to come. -/
theorem Fits.sleep (h : Fits n P c p) (hpc : P.pc = .testing) (hh : c.handled = false) :
    Fits n { P with pc := .asleep } { c with mutex := none } p := by
  refine h.move ?_ ?_ ?_ ?_ ?_
  · intro hnow
    exact .inl (hnow.lt_of_nowhere (by rw [hpc]; rfl))
  · rintro ⟨hcalls, -, -, -⟩
    exact ⟨hcalls, rfl, hh, rfl⟩
  · rintro r ⟨-, -, ht, -⟩
    exact absurd hpc ht
  · rintro r ⟨-, -, ht, -⟩
    exact absurd hpc ht
  · rintro r (hlt | ⟨-, -, -, hhandled, -⟩)
    · exact .inl hlt
    · cases hh.symm.trans hhandled

/-- The owner finds `handled` set. It holds the node's mutex, so the handler
has unlocked it and left the node. -/
theorem Fits.seen (h : Fits n P c p) (hpc : P.pc = .testing) (hh : c.handled = true) :
    Fits n { P with pc := .handledSeen } c p := by
  refine h.move ?_ ?_ ?_ ?_ ?_
  · intro hnow
    exact .inl (hnow.lt_of_nowhere (by rw [hpc]; rfl))
  · rintro ⟨-, -, hhandled, -⟩
    cases hh.symm.trans hhandled
  · rintro r ⟨-, -, ht, -⟩
    exact absurd hpc ht
  · rintro r ⟨-, -, ht, -⟩
    exact absurd hpc ht
  · rintro r (hlt | ⟨hcalls, -, -, hhandled, hrval, hmutex⟩)
    · exact .inl hlt
    · exact .inr ⟨hcalls, .inr (.inl rfl), by simp, hhandled, hrval, by rw [hmutex, hpc]; rfl⟩

/-- An owner that has seen `handled` no longer waits: it goes on to destroy
the node's mutex, which the handler has unlocked. -/
theorem Fits.unlockNode (h : Fits n P c p) (hpc : P.pc = .handledSeen) :
    Fits n { P with pc := .cleanup } { c with mutex := none } p := by
  have hawait : P.pc.awaiting ≠ true := by rw [hpc]; simp [ProducerPc.awaiting]
  refine h.move ?_ ?_ ?_ ?_ ?_
  · intro hnow
    exact .inl (hnow.lt_of_nowhere (by rw [hpc]; rfl))
  · rintro ⟨-, ha, -⟩
    exact absurd ha hawait
  · rintro r ⟨-, ha, -⟩
    exact absurd ha hawait
  · rintro r ⟨-, ha, -⟩
    exact absurd ha hawait
  · rintro r (hlt | ⟨hcalls, -, -, hhandled, hrval, -⟩)
    · exact .inl hlt
    · exact .inr ⟨hcalls, .inr (.inr rfl), by simp, hhandled, hrval, rfl⟩

/-- The owner returns: one more call is behind it. Its node has been left by
the handler, which is why it may be gone; the node of the next call is nowhere
yet. -/
theorem Fits.ret (h : Fits n P c p) (hpc : P.pc = .cleanup) :
    Fits n ⟨.outside, P.calls + 1⟩ c p := by
  have hawait : P.pc.awaiting ≠ true := by rw [hpc]; simp [ProducerPc.awaiting]
  refine h.move ?_ ?_ ?_ ?_ ?_
  · intro hnow
    have hlt := hnow.lt_of_nowhere (by rw [hpc]; rfl)
    rcases Nat.lt_or_eq_of_le (Nat.succ_le_of_lt hlt) with hlt | heq
    · exact .inl hlt
    · exact .inr ⟨heq, .inl rfl⟩
  · rintro ⟨-, ha, -⟩
    exact absurd ha hawait
  · rintro r ⟨-, ha, -⟩
    exact absurd ha hawait
  · rintro r ⟨-, ha, -⟩
    exact absurd ha hawait
  · rintro r (hlt | ⟨hcalls, -⟩)
    · exact .inl (Nat.lt_succ_of_lt hlt)
    · exact .inl (Nat.lt_succ_of_le (Nat.le_of_eq hcalls.symm))

end Fits

/-! ## One step -/

/-- A producer's move that keeps the fit of its current node, in whatever
place that is, keeps every node. -/
theorem node_moveOwner {s : State} {t : Nat} {c : RantCallback} (pc : ProducerPc)
    (h : ∀ n, NodeOk s n)
    (hFits : ∀ p, Fits (s.current t) (s.producers t) (s.nodes (s.current t)) p →
      Fits (s.current t) { s.producers t with pc := pc } c p) (n : NodePtr) :
    NodeOk ((s.setProducer t pc).setNode (s.current t) c) n := by
  by_cases hn : n = s.current t
  · subst hn
    obtain ⟨p, hAt, hp⟩ := h (s.current t)
    refine ⟨p, ⟨hAt.queue, hAt.pending, hAt.handlers⟩, ?_⟩
    simpa [State.setProducer, State.setNode, State.current] using hFits p hp
  · exact ((h n).setProducer_ne pc hn).setNode_ne hn

/-- The same for a move that does not write the node. -/
theorem node_moveOwner' {s : State} {t : Nat} (pc : ProducerPc) (h : ∀ n, NodeOk s n)
    (hFits : ∀ p, Fits (s.current t) (s.producers t) (s.nodes (s.current t)) p →
      Fits (s.current t) { s.producers t with pc := pc } (s.nodes (s.current t)) p)
    (n : NodePtr) : NodeOk (s.setProducer t pc) n := by
  have hset := node_moveOwner pc h hFits n
  rwa [State.setNode, State.setProducer, Function.update_eq_self] at hset

/-- The thread of a handler at `pc` is the only one of its node, and `pc` fits
the owner: a node is handed to one thread, once. -/
theorem NodeOk.handed {s : State} {n : NodePtr} {i : Nat} {pc : HandlerPc}
    (h : NodeOk s n) (hi : HandlerAt s n i pc) :
    i = 0 ∧ At s n (.handed pc) ∧ Fits n (s.producers n.tid) (s.nodes n) (.handed pc) := by
  obtain ⟨p, hAt, hFits⟩ := h
  rw [HandlerAt, hAt.handlers] at hi
  cases p with
  | handed hp =>
    obtain ⟨rfl, hpc⟩ : i = 0 ∧ hp = pc := by
      cases i <;> simp_all [Place.handlers]
    subst hpc
    exact ⟨rfl, hAt, hFits⟩
  | _ => cases hi

/-- A handler's move, with what it writes into its node, keeps every node if
it fits the owner. -/
theorem node_moveHandler {s : State} {n : NodePtr} {i : Nat} {pc : HandlerPc}
    {c : RantCallback} (pc' : HandlerPc) (h : ∀ m, NodeOk s m) (hi : HandlerAt s n i pc)
    (hFits : i = 0 → Fits n (s.producers n.tid) (s.nodes n) (.handed pc) →
      Fits n (s.producers n.tid) c (.handed pc')) (m : NodePtr) :
    NodeOk ((s.setHandler n i pc').setNode n c) m := by
  by_cases hm : m = n
  · subst hm
    obtain ⟨rfl, hAt, hp⟩ := (h m).handed hi
    refine ⟨.handed pc', ⟨hAt.queue, ?_, ?_⟩, ?_⟩
    · rw [show ((s.setHandler m 0 pc').setNode m c).pending = s.pending from rfl, hAt.pending]
      simp
    · simp [State.setHandler, State.setNode, hAt.handlers, Place.handlers]
    · simpa [State.setHandler, State.setNode] using hFits rfl hp
  · exact ((h m).setHandler_ne hm).setNode_ne hm

/-- The dispatcher, or the unblocking function, moves between points with the
same pending callback. -/
theorem node_moveDispatcher {s : State} (s' : State) (h : ∀ n, NodeOk s n)
    (hq : s'.queue = s.queue) (hp : s'.pending = s.pending) (hh : s'.handlers = s.handlers)
    (hn : s'.nodes = s.nodes) (hP : s'.producers = s.producers) (n : NodePtr) : NodeOk s' n :=
  (h n).frame (by rw [hq]) (by rw [hp]) (by rw [hh]) (by rw [hn]) (by rw [hP])

theorem pending_signalQueue (s : State) : s.signalQueue.pending = s.pending := by
  cases hd : s.dispatcher <;> simp [State.pending, State.signalQueue, hd]

/-- The call initialises the node of a call that nobody has submitted: it is
nowhere yet. -/
theorem node_call {s : State} {t : Nat} (h : ∀ n, NodeOk s n)
    (hpc : (s.producers t).pc = .outside) (n : NodePtr) : NodeOk (next s (.call t)) n := by
  apply node_moveOwner _ h
  intro p hp
  obtain rfl := hp.nowhere_of_early rfl (Or.inl hpc)
  exact Or.inr ⟨rfl, Or.inr ⟨Or.inl rfl, rfl, rfl⟩⟩

/-- Up to the push the node of the call stays nowhere. -/
theorem node_lockQueue {s : State} {t : Nat} (h : ∀ n, NodeOk s n)
    (hpc : (s.producers t).pc = .entered) (n : NodePtr) : NodeOk (next s (.lockQueue t)) n := by
  refine (node_moveOwner' .queueLocked h ?_ n).frame rfl Iff.rfl rfl rfl rfl
  intro p hp
  obtain rfl := hp.nowhere_of_early rfl (Or.inr (Or.inl hpc))
  rcases hp with hlt | ⟨-, he | ⟨-, hnode⟩⟩
  · exact absurd hlt (lt_irrefl _)
  · cases hpc.symm.trans he
  · exact .inr ⟨rfl, .inr ⟨.inr rfl, hnode⟩⟩

/-- **The push.** The node of the call moves from nowhere to the queue, where
it is once. The other nodes keep their places; the owner is from now on one
that waits. -/
theorem node_push {s : State} {t : Nat} (h : ∀ n, NodeOk s n)
    (hpc : (s.producers t).pc = .queueLocked) (n : NodePtr) : NodeOk (next s (.push t)) n := by
  by_cases hn : n = s.current t
  · subst hn
    obtain ⟨p, hAt, hp⟩ := h (s.current t)
    obtain rfl := hp.nowhere_of_early rfl (Or.inr (Or.inr hpc))
    refine ⟨.queued, ⟨?_, hAt.pending.trans (by simp), hAt.handlers⟩, ?_⟩
    · simpa [next, callbackQueuePush] using hAt.queue
    · have hnode : (s.nodes (s.current t)).handled = false ∧
          (s.nodes (s.current t)).mutex = none := by
        rcases hp with hlt | ⟨-, he | ⟨-, hnode⟩⟩
        · exact absurd hlt (lt_irrefl _)
        · cases hpc.symm.trans he
        · exact hnode
      simp [next, State.setProducer, State.current, Fits, Untouched, ProducerPc.awaiting,
        ProducerPc.hold] at hnode ⊢
      exact hnode
  · refine ((h n).setProducer_ne .pushed hn).frame ?_ Iff.rfl rfl rfl rfl
    simp [next, callbackQueuePush, State.setProducer, Ne.symm hn]

/-- **The return.** The calls so far are over for every node of the thread,
and a node that was handed to a handler has been left by it. -/
theorem node_ret {s : State} {t : Nat} (h : ∀ n, NodeOk s n)
    (hpc : (s.producers t).pc = .cleanup) (n : NodePtr) : NodeOk (next s (.ret t)) n := by
  obtain ⟨p, hAt, hp⟩ := h n
  refine ⟨p, ⟨hAt.queue, hAt.pending, hAt.handlers⟩, ?_⟩
  by_cases ht : n.tid = t
  · subst ht
    simpa [next] using hp.ret hpc
  · simpa [next, Function.update_of_ne ht] using hp

/-- **The pop.** The head of the queue moves to `waiting.callback`, which no
longer holds an earlier node: the pending callback of an earlier round has
been spawned. With an empty queue, or the flag set, every node stays where it
is. -/
theorem node_dispatcherTest {s : State} (h : Inv s) (hpc : s.dispatcher = .testing)
    (n : NodePtr) : NodeOk (next s .dispatcherTest) n := by
  have hpend : s.pending = none := by rw [State.pending, hpc]
  by_cases hab : s.waiting.abort = false
  · cases hq : s.queue with
    | nil =>
      apply node_moveDispatcher _ h.node <;>
        simp [next, State.waitTest, hab, hq, callbackQueuePop, State.pending, hpc]
    | cons m q =>
      have hnext : next s .dispatcherTest =
          { s with
            waiting := { s.waiting with callback := some m }, queue := q
            dispatcher := .leaving } := by
        simp [next, State.waitTest, hab, hq, callbackQueuePop]
      rw [hnext]
      obtain ⟨p, hAt, hp⟩ := h.node n
      have hcount := hAt.queue
      rw [hq] at hcount
      by_cases hm : n = m
      · subst hm
        obtain rfl : p = .queued := by
          by_contra hne
          simp [hne] at hcount
        exact ⟨.waiting, ⟨by simpa using hcount, by simp [State.pending], hAt.handlers⟩, hp⟩
      · have hp' : p ≠ .waiting := by
          rintro rfl
          have := hAt.pending.mpr rfl
          rw [hpend] at this
          cases this
        refine ⟨p, ⟨?_, ?_, hAt.handlers⟩, hp⟩
        · simpa [List.count_cons, Ne.symm hm] using hcount
        · simp [State.pending, Ne.symm hm, hp']
  · -- the abort flag ends the wait: nothing is popped, and nothing is pending
    have hnull := h.abortNull (Or.inr hpc) (by simpa using hab)
    apply node_moveDispatcher _ h.node <;>
      simp [next, State.waitTest, hab, State.pending, hpc, hnull]

/-- **The spawn.** The pending callback moves to a new handler thread, which
is the only one of its node, as a pending node has none. Without one the
dispatcher just goes on. -/
theorem node_dispatcherSpawn {s : State} (h : ∀ n, NodeOk s n) (hpc : s.dispatcher = .back)
    (n : NodePtr) : NodeOk (next s .dispatcherSpawn) n := by
  have hpend : s.pending = s.waiting.callback := by rw [State.pending, hpc]
  cases hcb : s.waiting.callback with
  | none =>
    apply node_moveDispatcher _ h <;>
      simp [next, State.spawn, State.pending, hcb, hpc]
  | some m =>
    obtain ⟨p, hAt, hp⟩ := h n
    have hwait := hAt.pending
    rw [hpend, hcb] at hwait
    by_cases hm : n = m
    · subst hm
      obtain rfl := hwait.mp rfl
      refine ⟨.handed .created, ⟨?_, ?_, ?_⟩, ?_⟩
      · simpa [next, State.spawn, hcb] using hAt.queue
      · simp [next, State.spawn, hcb, State.pending]
      · simp [next, State.spawn, hcb, hAt.handlers, Place.handlers]
      · simp only [next, State.spawn, hcb]
        exact hp
    · have hp' : p ≠ .waiting := fun e => hm (Option.some.inj (hwait.mpr e)).symm
      refine ⟨p, ⟨?_, ?_, ?_⟩, ?_⟩
      · simpa [next, State.spawn, hcb] using hAt.queue
      · simp [next, State.spawn, hcb, State.pending, hp']
      · simpa [next, State.spawn, hcb, Function.update_of_ne hm] using hAt.handlers
      · simpa [next, State.spawn, hcb] using hp

/-- The handler writes `handled` and signals in one action: an owner that
sleeps is woken, and one that does not will find the flag. It still holds the
node's mutex, so the owner is at no test. -/
theorem node_handlerComplete {s : State} {n : NodePtr} {i : Nat} {r : FnResult}
    (h : ∀ m, NodeOk s m) (hi : HandlerAt s n i (.locked r)) (m : NodePtr) :
    NodeOk (next s (.handlerComplete n i r)) m := by
  obtain ⟨rfl, hAt, hp⟩ := (h n).handed hi
  obtain ⟨hcalls, hawait, htest, hhandled, hmutex⟩ := hp
  by_cases hm : m = n
  · subst hm
    refine ⟨.handed (.signalled r), ⟨hAt.queue, ?_, ?_⟩, ?_⟩
    · exact hAt.pending.trans (by simp)
    · simp [next, State.signalNode, State.setHandler, State.setNode, State.setProducer,
        hAt.handlers, Place.handlers]
    · simp only [next, State.signalNode, State.setHandler, State.setNode, State.setProducer,
        Function.update_self, Fits, hmutex, hcalls]
      by_cases hs : (s.producers m.tid).pc = .asleep
      · simp [hs, ProducerPc.awaiting]
      · simp [hs, hawait, htest]
  · have hne : m ≠ ((s.setHandler n 0 (.signalled r)).setNode n
        { s.nodes n with handled := true, rval := r.truth }).current n.tid := by
      intro hc
      apply hm
      rw [hc]
      cases n
      simpa [State.current, State.setNode, State.setHandler] using hcalls
    exact (((h m).setHandler_ne hm).setNode_ne hm).setProducer_ne _ hne

/-- **Node step.** After every action every node is in one place that fits its
owner. One case for each kind of move: the owner's and the handler's moves
keep the fit, the push, the pop and the spawn carry the node on to its next
place. -/
theorem node_step {s : State} {a : Action} (h : Inv s) (hen : Enabled s a) (n : NodePtr) :
    NodeOk (next s a) n := by
  have hnode := h.node
  cases a with
  | call t => exact node_call hnode hen n
  | lockQueue t => exact node_lockQueue hnode hen.1 n
  | push t => exact node_push hnode hen n
  | unlockQueue t =>
    have hpc : (s.producers t).pc = .pushed := hen
    refine (node_moveOwner' .unlocked hnode ?_ n).frame rfl Iff.rfl rfl rfl rfl
    intro p hp
    exact hp.quiet (by rw [hpc]; rfl) (by rw [hpc]; rfl) rfl rfl (by simp)
  | signalQueue t =>
    have hpc : (s.producers t).pc = .unlocked := hen
    refine (node_moveOwner' .signalled hnode ?_ n).frame rfl ?_ rfl rfl rfl
    · intro p hp
      exact hp.quiet (by rw [hpc]; rfl) (by rw [hpc]; rfl) rfl rfl (by simp)
    · rw [next, pending_signalQueue]
  | lockNode t =>
    exact node_moveOwner _ hnode (fun p hp => hp.lockNode (Or.inl hen.1) hen.2) n
  | relockNode t =>
    exact node_moveOwner _ hnode (fun p hp => hp.lockNode (Or.inr hen.1) hen.2) n
  | testHandled t =>
    rw [next]
    split
    · rename_i hh
      exact node_moveOwner _ hnode (fun p hp => hp.sleep hen hh) n
    · rename_i hh
      exact node_moveOwner' _ hnode (fun p hp => hp.seen hen (by simpa using hh)) n
  | wakeSpuriously t =>
    have hpc : (s.producers t).pc = .asleep := hen
    refine node_moveOwner' _ hnode (fun p hp => ?_) n
    exact hp.quiet (by rw [hpc]; rfl) (by rw [hpc]; rfl) rfl rfl (by simp)
  | unlockNode t => exact node_moveOwner _ hnode (fun p hp => hp.unlockNode hen) n
  | ret t => exact node_ret hnode hen n
  | dispatcherLoop =>
    have hpc : s.dispatcher = .loopTest := hen
    refine node_moveDispatcher (next s .dispatcherLoop) hnode rfl ?_ rfl rfl rfl n
    by_cases hab : s.waiting.abort = false <;> simp [next, State.pending, hpc, hab]
  | dispatcherLock | dispatcherRelock =>
    refine node_moveDispatcher (next s _) hnode rfl ?_ rfl rfl rfl n
    simp [next, State.pending, hen.1]
  | dispatcherTest => exact node_dispatcherTest h hen n
  | dispatcherWakeSpuriously =>
    have hpc : s.dispatcher = .asleep := hen
    refine node_moveDispatcher (next s .dispatcherWakeSpuriously) hnode rfl ?_ rfl rfl rfl n
    simp [next, State.pending, hpc]
  | dispatcherUnlock =>
    have hpc : s.dispatcher = .leaving := hen
    refine node_moveDispatcher (next s .dispatcherUnlock) hnode rfl ?_ rfl rfl rfl n
    simp [next, State.pending, hpc]
  | dispatcherReturn =>
    have hpc : s.dispatcher = .unlocked := hen
    refine node_moveDispatcher (next s .dispatcherReturn) hnode rfl ?_ rfl rfl rfl n
    simp [next, State.pending, hpc]
  | dispatcherSpawn => exact node_dispatcherSpawn hnode hen n
  | unblockerCall | unblockerLock | unblockerAbort | unblockerUnlock =>
    exact node_moveDispatcher (next s _) hnode rfl rfl rfl rfl rfl n
  | unblockerSignal =>
    exact node_moveDispatcher (next s .unblockerSignal) hnode rfl (pending_signalQueue s)
      rfl rfl rfl n
  | handlerRun m i =>
    have hset := node_moveHandler .running hnode hen (fun _ hp => hp) n
    rwa [State.setNode, State.setHandler, Function.update_eq_self] at hset
  | handlerEnd m i r =>
    have hset := node_moveHandler (.ended r) hnode hen (fun _ hp => hp) n
    rwa [State.setNode, State.setHandler, Function.update_eq_self] at hset
  | handlerLock m i r =>
    -- the mutex is free, so the owner is not testing
    obtain ⟨hi, hfree⟩ := hen
    refine node_moveHandler _ hnode hi ?_ n
    rintro rfl ⟨hcalls, hawait, hhandled, hmutex⟩
    refine ⟨hcalls, hawait, ?_, hhandled, rfl⟩
    rintro htest
    rw [htest, hfree] at hmutex
    cases hmutex
  | handlerComplete m i r => exact node_handlerComplete hnode hen n
  | handlerUnlock m i r =>
    refine node_moveHandler _ hnode hen ?_ n
    rintro rfl ⟨hcalls, hawait, htest, hasleep, hhandled, hrval, -⟩
    refine Or.inr ⟨hcalls, Or.inl hawait, hasleep, hhandled, hrval, ?_⟩
    cases hpc : (s.producers m.tid).pc <;> simp_all [ProducerPc.hold, ProducerPc.awaiting]

/-- **Step.** Every action but a stale abort keeps the monitor's discipline
and every node's place. -/
theorem inv_step {s s' : State} {a : Action} (h : Inv s) (hst : ¬ StaleAbort s a)
    (hs : step s a = some s') : Inv s' := by
  obtain ⟨hen, rfl⟩ := step_eq_some.mp hs
  exact { toMonitorOk := monitor_step h.toMonitorOk hen hst, node := node_step h hen }

/-- **Run.** Every run without a stale abort stays in the invariant. -/
theorem inv_exec {as : List Action} {s : State}
    (h : Lts.Exec step (fun s a => ¬ StaleAbort s a) init as s) : Inv s :=
  h.invariant (fun _ _ _ hI hg hs => inv_step hI hg hs) inv_init

end AntWireless.Callbacks
