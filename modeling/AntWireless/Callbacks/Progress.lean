import AntWireless.Callbacks.Invariant

/-!
# AntWireless — no lost wake-up and no deadlock

Runs in which Ruby never asks the dispatcher to stop (`Quiet`). Spurious wake-ups
are allowed everywhere; every callback function that runs may end, and creating a
thread succeeds.

* `Calm` — the invariant of such runs: nobody has set the abort flag.
* `queueMutex_progress`, `nodeMutex_progress`, `dispatcher_progress` — whoever holds
  a mutex can go on, and the dispatcher can unless it sleeps.
* `no_lost_wakeup` — the callbacks are each in one place, a blocked producer always
  leaves some protocol step enabled, and nobody sleeps through its signal.
-/

namespace AntWireless.Callbacks

/-- Ruby does not call `stop_waiting_for_callback_signal`. -/
def Quiet (_ : State) (a : Action) : Prop := a ≠ .unblockerCall

/-- The invariant where no abort has been requested. -/
structure Calm (s : State) : Prop extends Inv s where
  idle : s.unblocker = .idle
  noAbort : s.waiting.abort = false
  running : s.dispatcher ≠ .exited

theorem calm_init : Calm init := ⟨inv_init, rfl, rfl, by simp [init]⟩

/-- Only the unblocking function writes the abort flag, and only the flag ends
the dispatcher. Without a call of that function both stay as they are, so the
dispatcher stays in its loop for good. -/
theorem control_step {s : State} {a : Action} (h : Calm s) (hq : Quiet s a) (hen : Enabled s a) :
    (next s a).unblocker = .idle ∧ (next s a).waiting.abort = false ∧
      (next s a).dispatcher ≠ .exited := by
  obtain ⟨-, hidle, habort, hrun⟩ := h
  cases a with
  | unblockerCall => exact absurd rfl hq
  | unblockerLock => exact absurd (hidle.symm.trans hen.1) (by simp)
  | unblockerAbort | unblockerSignal | unblockerUnlock =>
    exact absurd (hidle.symm.trans hen) (by simp)
  | testHandled t =>
    rw [next]
    split <;> exact ⟨hidle, habort, hrun⟩
  | signalQueue t =>
    refine ⟨hidle, habort, ?_⟩
    by_cases hd : s.dispatcher = .asleep <;>
      simp [next, State.signalQueue, State.setProducer, hd, hrun]
  | dispatcherLoop =>
    refine ⟨hidle, habort, ?_⟩
    simp [next, habort]
  | dispatcherTest =>
    cases hqueue : s.queue <;>
      simp [next, State.waitTest, habort, hqueue, callbackQueuePop, hidle]
  | dispatcherSpawn =>
    cases hcb : s.waiting.callback <;> simp [next, State.spawn, hcb, hidle, habort]
  | dispatcherLock | dispatcherRelock | dispatcherWakeSpuriously | dispatcherUnlock
  | dispatcherReturn => exact ⟨hidle, habort, by simp [next]⟩
  | _ => exact ⟨hidle, habort, hrun⟩

/-- **Step.** In a run without an abort request no abort is stale, so the
invariant of the protocol is kept along with the flag. -/
theorem calm_step {s s' : State} {a : Action} (h : Calm s) (hq : Quiet s a)
    (hs : step s a = some s') : Calm s' := by
  obtain ⟨hen, rfl⟩ := step_eq_some.mp hs
  have hst : ¬ StaleAbort s a := by
    rintro ⟨rfl, -, -⟩
    exact absurd (h.idle.symm.trans hen) (by simp)
  obtain ⟨hidle, habort, hrun⟩ := control_step h hq hen
  exact ⟨inv_step h.toInv hst hs, hidle, habort, hrun⟩

/-- **Run.** Every state of a run without an abort request is calm. -/
theorem calm_exec {as : List Action} {s : State} (h : Lts.Exec step Quiet init as s) : Calm s :=
  h.invariant (fun _ _ _ hI hg hs => calm_step hI hg hs) calm_init

-- ---------------------------------------------------------------------------
-- Somebody can always go on
-- ---------------------------------------------------------------------------

/-- The steps of the protocol proper: not a new call, not a spurious wake-up,
not the unblocking function. -/
def Action.isProtocol : Action → Bool
  | .call _ | .wakeSpuriously _ | .dispatcherWakeSpuriously | .unblockerCall | .unblockerLock
  | .unblockerAbort | .unblockerSignal | .unblockerUnlock => false
  | _ => true

/-- Some step of the protocol proper is enabled. -/
def CanProgress (s : State) : Prop := ∃ a : Action, a.isProtocol = true ∧ Enabled s a

/-- The holder of `rant_callback_mutex` can go on: nobody waits for anything
while holding it, apart from the dispatcher's wait, which releases it. -/
theorem queueMutex_progress {s : State} (h : Calm s) (hm : s.queueMutex ≠ none) :
    CanProgress s := by
  obtain ⟨holder, hh⟩ := Option.ne_none_iff_exists'.mp hm
  cases holder with
  | producer t =>
    rcases (h.producerLock t).mp hh with hpc | hpc
    · exact ⟨.push t, rfl, hpc⟩
    · exact ⟨.unlockQueue t, rfl, hpc⟩
  | dispatcher =>
    rcases h.dispatcherLock.mp hh with hpc | hpc
    · exact ⟨.dispatcherTest, rfl, hpc⟩
    · exact ⟨.dispatcherUnlock, rfl, hpc⟩
  | unblocker =>
    have := h.unblockerLock.mp hh
    simp [h.idle] at this

/-- The dispatcher can go on unless it sleeps, and where it waits for the
mutex the holder can. -/
theorem dispatcher_progress {s : State} (h : Calm s) (hd : s.dispatcher ≠ .asleep) :
    CanProgress s := by
  by_cases hm : s.queueMutex = none
  · cases hpc : s.dispatcher with
    | loopTest => exact ⟨.dispatcherLoop, rfl, hpc⟩
    | inCall => exact ⟨.dispatcherLock, rfl, hpc, hm⟩
    | testing => exact ⟨.dispatcherTest, rfl, hpc⟩
    | asleep => exact absurd hpc hd
    | woken => exact ⟨.dispatcherRelock, rfl, hpc, hm⟩
    | leaving => exact ⟨.dispatcherUnlock, rfl, hpc⟩
    | unlocked => exact ⟨.dispatcherReturn, rfl, hpc⟩
    | back => exact ⟨.dispatcherSpawn, rfl, hpc⟩
    | exited => exact absurd hpc h.running
  · exact queueMutex_progress h hm

/-- A callback that was handed out has its thread at index 0. -/
theorem At.handlerAt {s : State} {n : NodePtr} {pc : HandlerPc} (h : At s n (.handed pc)) :
    HandlerAt s n 0 pc := by
  rw [HandlerAt, h.handlers]
  rfl

/-- The owner of a node wants its mutex: it is free, or a handler holds it and
can go on. The holder is the node's only handler, between its lock and its
unlock, where it waits for nothing. -/
theorem nodeMutex_progress {s : State} {t : Nat} (h : Calm s)
    (hpc : (s.producers t).pc = .signalled ∨ (s.producers t).pc = .woken) : CanProgress s := by
  by_cases hm : (s.nodes (s.current t)).mutex = none
  · rcases hpc with hpc | hpc
    · exact ⟨.lockNode t, rfl, hpc, hm⟩
    · exact ⟨.relockNode t, rfl, hpc, hm⟩
  · have hhold : (s.producers t).pc.hold = none := by
      rcases hpc with hpc | hpc <;> rw [hpc] <;> rfl
    obtain ⟨p, hAt, hFits⟩ := h.node (s.current t)
    -- the owner does not hold it, so a handler past its lock does
    cases p with
    | nowhere =>
      have hsub : (s.producers t).pc.submitted = true := by
        rcases hpc with hpc | hpc <;> rw [hpc] <;> rfl
      exact absurd (hFits.lt_of_nowhere hsub) (lt_irrefl _)
    | queued | waiting => exact absurd (hFits.2.2.2.trans hhold) hm
    | handed hp =>
      cases hp with
      | created | running | ended r => exact absurd (hFits.2.2.2.trans hhold) hm
      | locked r => exact ⟨.handlerComplete _ 0 r, rfl, hAt.handlerAt⟩
      | signalled r => exact ⟨.handlerUnlock _ 0 r, rfl, hAt.handlerAt⟩
      | exited r =>
        rcases hFits with hlt | ⟨-, -, -, -, -, hmutex⟩
        · exact absurd hlt (lt_irrefl _)
        · exact absurd (hmutex.trans hhold) hm

/-- A producer asleep on its node: whoever has the callback can go on. That is
the dispatcher if the callback is queued or pending (a sleeping dispatcher
would have the signal on its way, which this producer has sent), and otherwise
the handler. -/
theorem asleep_progress {s : State} {t : Nat} (h : Calm s)
    (hpc : (s.producers t).pc = .asleep) : CanProgress s := by
  obtain ⟨p, hAt, hFits⟩ := h.node (s.current t)
  have hpc' : (s.producers (s.current t).tid).pc = .asleep := hpc
  cases p with
  | nowhere =>
    exact absurd (hFits.lt_of_nowhere (by rw [hpc']; rfl)) (lt_irrefl _)
  | queued =>
    -- a sleeping dispatcher would have the signal of this push still to come
    apply dispatcher_progress h
    intro hd
    have hmem : s.current t ∈ s.queue := by
      apply List.count_pos_iff.mp
      rw [hAt.queue]
      exact Nat.one_pos
    have := h.signalComing hd _ hmem
    simp [hpc'] at this
  | waiting =>
    apply dispatcher_progress h
    intro hd
    have := hAt.pending.mpr rfl
    simp [State.pending, hd] at this
  | handed hp =>
    have hi := hAt.handlerAt
    cases hp with
    | created => exact ⟨.handlerRun _ 0, rfl, hi⟩
    | running => exact ⟨.handlerEnd _ 0 .raised, rfl, hi⟩
    | ended r =>
      refine ⟨.handlerLock _ 0 r, rfl, hi, ?_⟩
      rw [hFits.2.2.2, hpc']
      rfl
    | locked r => exact ⟨.handlerComplete _ 0 r, rfl, hi⟩
    | signalled r => exact ⟨.handlerUnlock _ 0 r, rfl, hi⟩
    | exited r =>
      rcases hFits with hlt | ⟨-, -, hne, -⟩
      · exact absurd hlt (lt_irrefl _)
      · exact absurd hpc' hne

/-- **Deadlock freedom.** A producer inside `rant_callback` leaves some step
enabled. Where it waits for a mutex the holder can go on, and where it sleeps
whoever has its callback; elsewhere its own next step is enabled. -/
theorem producer_progress {s : State} {t : Nat} (h : Calm s)
    (hin : (s.producers t).pc ≠ .outside) : CanProgress s := by
  cases hpc : (s.producers t).pc with
  | outside => exact absurd hpc hin
  | entered =>
    by_cases hm : s.queueMutex = none
    · exact ⟨.lockQueue t, rfl, hpc, hm⟩
    · exact queueMutex_progress h hm
  | queueLocked => exact ⟨.push t, rfl, hpc⟩
  | pushed => exact ⟨.unlockQueue t, rfl, hpc⟩
  | unlocked => exact ⟨.signalQueue t, rfl, hpc⟩
  | signalled => exact nodeMutex_progress h (Or.inl hpc)
  | testing => exact ⟨.testHandled t, rfl, hpc⟩
  | asleep => exact asleep_progress h hpc
  | woken => exact nodeMutex_progress h (Or.inr hpc)
  | handledSeen => exact ⟨.unlockNode t, rfl, hpc⟩
  | cleanup => exact ⟨.ret t, rfl, hpc⟩

-- ---------------------------------------------------------------------------
-- Where an unfinished callback is
-- ---------------------------------------------------------------------------

/-- The owner has pushed the node in the call it is in. -/
def Submitted (s : State) (n : NodePtr) : Prop :=
  (s.producers n.tid).calls = n.call ∧
    ((s.producers n.tid).pc.awaiting = true ∨ (s.producers n.tid).pc = .handledSeen ∨
      (s.producers n.tid).pc = .cleanup)

/-- Exactly one of: on the queue (once), popped and not yet given to a thread,
with one handler thread. -/
def InOnePlace (s : State) (n : NodePtr) : Prop :=
  (s.queue.count n = 1 ∧ s.pending ≠ some n ∧ (s.handlers n).length = 0) ∨
  (s.queue.count n = 0 ∧ s.pending = some n ∧ (s.handlers n).length = 0) ∨
  (s.queue.count n = 0 ∧ s.pending ≠ some n ∧ (s.handlers n).length = 1)

/-- What has been submitted has been pushed in the call that the owner is in. -/
theorem Submitted.submitted {s : State} {n : NodePtr} (h : Submitted s n) :
    (s.producers n.tid).pc.submitted = true := by
  rcases h.2 with ha | hs | hs
  · exact submitted_of_awaiting ha
  · rw [hs]
    rfl
  · rw [hs]
    rfl

/-- A submitted node is not nowhere, and the three other places exclude each other. -/
theorem NodeOk.inOnePlace {s : State} {n : NodePtr} (h : NodeOk s n) (hsub : Submitted s n) :
    InOnePlace s n := by
  obtain ⟨p, hAt, hFits⟩ := h
  obtain ⟨hq, hp, hh⟩ := hAt
  cases p with
  | nowhere =>
    have hlt := hFits.lt_of_nowhere hsub.submitted
    rw [hsub.1] at hlt
    exact absurd hlt (lt_irrefl _)
  | queued => exact Or.inl ⟨hq, by simpa using hp, by rw [hh]; rfl⟩
  | waiting => exact Or.inr (Or.inl ⟨by simpa using hq, by simpa using hp, by rw [hh]; rfl⟩)
  | handed hp' =>
    exact Or.inr (Or.inr ⟨by simpa using hq, by simpa using hp, by rw [hh]; rfl⟩)

/-- A producer asleep on its own condition has a node that is not handled: the
handler's write and its signal are one step, and the owner went to sleep
before it. -/
theorem NodeOk.not_handled_of_asleep {s : State} {n : NodePtr} (h : NodeOk s n)
    (hc : (s.producers n.tid).calls = n.call) (hpc : (s.producers n.tid).pc = .asleep) :
    (s.nodes n).handled = false := by
  obtain ⟨p, -, hFits⟩ := h
  cases p with
  | nowhere =>
    have hlt := hFits.lt_of_nowhere (by rw [hpc]; rfl)
    exact absurd hc (Nat.ne_of_lt hlt)
  | queued | waiting => exact hFits.2.2.1
  | handed pc =>
    cases pc with
    | created | running | ended r => exact hFits.2.2.1
    | locked r => exact hFits.2.2.2.1
    | signalled r => exact absurd hpc hFits.2.2.2.1
    | exited r =>
      rcases hFits with hlt | ⟨-, -, hne, -⟩
      · exact absurd hc (Nat.ne_of_gt hlt)
      · exact absurd hpc hne

/-- **No lost wake-up, no deadlock.** In every state of a run without an abort
request: each submitted callback whose call has not returned is in exactly one
place; a producer inside `rant_callback` leaves some protocol step enabled; a
sleeping dispatcher with a nonempty queue has a signal on its way; and no
producer sleeps on its condition with `handled` set. -/
theorem no_lost_wakeup {as : List Action} {s : State} (h : Lts.Exec step Quiet init as s) :
    (∀ n, Submitted s n → InOnePlace s n) ∧
    (∀ t, (s.producers t).pc ≠ .outside → CanProgress s) ∧
    (s.dispatcher = .asleep → s.queue ≠ [] →
      ∃ t, (s.producers t).pc = .pushed ∨ (s.producers t).pc = .unlocked) ∧
    (∀ t, (s.producers t).pc = .asleep → (s.nodes (s.current t)).handled = false) := by
  have hcalm := calm_exec h
  refine ⟨fun n => (hcalm.node n).inOnePlace, fun t => producer_progress hcalm, ?_, ?_⟩
  · intro hd hne
    obtain ⟨n, hn⟩ := List.exists_mem_of_ne_nil _ hne
    exact ⟨n.tid, hcalm.signalComing hd n hn⟩
  · intro t hpc
    exact (hcalm.node (s.current t)).not_handled_of_asleep rfl hpc

instance (s : State) (a : Action) : Decidable (Quiet s a) :=
  inferInstanceAs (Decidable (_ ≠ _))

/-- The dispatcher went to sleep, and a producer has pushed its node but not
yet signalled. -/
def pushWhileAsleep : List Action :=
  [.dispatcherLoop, .dispatcherLock, .dispatcherTest, .call 0, .lockQueue 0, .push 0]

/-- The wake-up that could be lost: the dispatcher sleeps over a queue that is
not empty, and the producer that pushed has yet to signal. -/
theorem no_lost_wakeup_pushWhileAsleep :
    ∃ s, Lts.runIf step (fun s a => decide (Quiet s a)) init pushWhileAsleep = some s ∧
      s.dispatcher = .asleep ∧ s.queue = [⟨0, 0⟩] ∧
      ∃ t, (s.producers t).pc = .pushed ∨ (s.producers t).pc = .unlocked := by
  have hrun : (Lts.runIf step (fun s a => decide (Quiet s a)) init pushWhileAsleep).map
      (fun s => (s.dispatcher, s.queue)) = some (.asleep, [⟨0, 0⟩]) := by
    decide +kernel
  obtain ⟨s, hs, hval⟩ := Option.map_eq_some_iff.mp hrun
  obtain ⟨hd, hq⟩ := Prod.mk.inj hval
  have hall := no_lost_wakeup (Lts.exec_of_runIf (fun s a h => by simpa using h) hs)
  exact ⟨s, hs, hd, hq, hall.2.2.1 hd (by simp [hq])⟩

end AntWireless.Callbacks
