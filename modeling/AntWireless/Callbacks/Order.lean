import AntWireless.Callbacks.Progress

/-!
# AntWireless — the order of the callbacks

`callback_queue_push` adds to the front, so callbacks are handled most recent first.

* `queue_newest_first` — the queue is the pushed callbacks that have not been popped,
  newest first, in every run.
* `popped_newest` — the callback a pop takes was pushed after everything it leaves.
* `overtaken` — a callback on the queue may be overtaken any number of times, by
  another producer that calls again and again.
-/

namespace AntWireless.Callbacks

-- ---------------------------------------------------------------------------
-- Newest first
-- ---------------------------------------------------------------------------

/-- The log records every push. -/
def pushed (s : State) : Action → Option NodePtr
  | .push t => some (s.current t)
  | _ => none

/-- The queue, oldest first, is a part of what has been pushed, in that order. -/
def NewestFirst (x : State × List NodePtr) : Prop := x.1.queue.reverse.Sublist x.2

/-- Apart from the push, an action leaves the queue alone or takes its head.
So what stays on it keeps its order. -/
theorem queue_next {s : State} {a : Action} (ha : pushed s a = none) :
    (next s a).queue.Sublist s.queue := by
  cases a with
  | push t => cases ha
  | testHandled t =>
    rw [next]
    split <;> exact List.Sublist.refl _
  | dispatcherTest =>
    rw [next, State.waitTest]
    cases hq : s.queue with
    | nil => split <;> simp [callbackQueuePop]
    | cons n q =>
      split
      · exact List.sublist_cons_self n q
      · simp
  | dispatcherSpawn =>
    rw [next, State.spawn]
    split <;> exact List.Sublist.refl _
  | _ => exact List.Sublist.refl _

/-- **Step.** A push goes to the front of the queue and to the end of the log;
what is taken off the queue stays in the log. -/
theorem newestFirst_step {x y : State × List NodePtr} {a : Action} (h : NewestFirst x)
    (hs : Lts.logged step pushed x a = some y) : NewestFirst y := by
  obtain ⟨hst, hlog⟩ := Lts.logged_eq_some.mp hs
  obtain ⟨-, hnext⟩ := step_eq_some.mp hst
  unfold NewestFirst
  rw [hlog, hnext]
  cases ha : pushed x.1 a with
  | none =>
    rw [Option.toList_none, List.append_nil]
    exact (queue_next ha).reverse.trans h
  | some n =>
    cases a with
    | push t =>
      obtain rfl := Option.some.inj ha
      have hq : (next x.1 (.push t)).queue.reverse = x.1.queue.reverse ++ [x.1.current t] :=
        List.reverse_cons
      rw [hq]
      exact h.append (List.Sublist.refl _)
    | _ => cases ha

/-- **Run.** In every run the queue is a part of what has been pushed, newest first. -/
theorem queue_newest_first {as : List Action} {y : State × List NodePtr}
    (h : Lts.Exec (Lts.logged step pushed) Lts.Any (init, []) as y) : NewestFirst y :=
  h.invariant (I := NewestFirst) (fun _ _ _ hI _ hs => newestFirst_step hI hs)
    (show NewestFirst (init, []) from .slnil)

/-- **Most recent first.** In every run, what a pop takes off the queue was
pushed after everything it leaves there. A callback that waits is handled
after all that come while it waits. -/
theorem popped_newest {as : List Action} {s : State} {log : List NodePtr} {n : NodePtr}
    {q : List NodePtr} (h : Lts.Exec (Lts.logged step pushed) Lts.Any (init, []) as (s, log))
    (hpop : callbackQueuePop s.queue = (some n, q)) :
    ∀ m ∈ q, [m, n].Sublist log := by
  intro m hm
  have hqueue : s.queue = n :: q := by
    cases hq : s.queue with
    | nil =>
      rw [hq] at hpop
      cases hpop
    | cons n' q' =>
      rw [hq] at hpop
      cases hpop
      rfl
  have hrev : s.queue.reverse.Sublist log := queue_newest_first h
  rw [hqueue, List.reverse_cons] at hrev
  have hmem : [m].Sublist q.reverse := List.singleton_sublist.mpr (List.mem_reverse.mpr hm)
  exact (hmem.append (List.Sublist.refl [n])).trans hrev

-- ---------------------------------------------------------------------------
-- Overtaking
-- ---------------------------------------------------------------------------

/-- Not an abort request, and not a spurious wake-up. -/
def Action.isPrompt : Action → Bool
  | .wakeSpuriously _ | .dispatcherWakeSpuriously | .unblockerCall => false
  | _ => true

/-- The dispatcher is about to look at the queue, and producer `t` is free to call. -/
structure Open (s : State) (t : Nat) : Prop where
  dispatcher : s.dispatcher = .inCall
  queueMutex : s.queueMutex = none
  noAbort : s.waiting.abort = false
  producer : (s.producers t).pc = .outside

/-- Producer `t` calls and signals; the dispatcher takes the callback; it
returns `true`; the call returns. -/
def submit (t : Nat) : List Action :=
  [.call t, .lockQueue t, .push t, .unlockQueue t, .signalQueue t]

def dispatch : List Action :=
  [.dispatcherLock, .dispatcherTest, .dispatcherUnlock, .dispatcherReturn, .dispatcherSpawn,
   .dispatcherLoop]

def handle (n : NodePtr) (r : FnResult) : List Action :=
  [.handlerRun n 0, .handlerEnd n 0 r, .handlerLock n 0 r, .handlerComplete n 0 r,
   .handlerUnlock n 0 r]

def leave (t : Nat) : List Action := [.lockNode t, .testHandled t, .unlockNode t, .ret t]

section Round

variable {s : State} {t : Nat}

/-- Where the callback of producer `t` is on top of the queue. -/
def queuedBy (s : State) (t : Nat) : State :=
  { s with
    nodes := Function.update s.nodes (s.current t) ⟨(s.nodes (s.current t)).rval, false, none⟩
    queue := s.current t :: s.queue
    producers := Function.update s.producers t ⟨.signalled, (s.producers t).calls⟩ }

/-- The producer's part of a round up to its wait, under the mutex that `Open`
says is free. -/
theorem runIf_submit (h : Open s t) :
    Lts.runIf step (fun _ a => a.isPrompt) s (submit t) = some (queuedBy s t) := by
  simp [Lts.runIf, submit, step, Enabled, next, State.setProducer, State.setNode, State.signalQueue,
    State.current, callbackQueuePush, h.producer, h.queueMutex, h.dispatcher, Action.isPrompt,
    queuedBy]

/-- Where the dispatcher has taken `n` off the queue and is back at the wait. -/
def takenBy (s : State) (n : NodePtr) (q : List NodePtr) : State :=
  { s with
    queue := q
    waiting := ⟨some n, false⟩
    handlers := Function.update s.handlers n [.created] }

/-- The dispatcher's part: it takes the head of the queue, gives it a thread
and is back at the wait. -/
theorem runIf_dispatch {n : NodePtr} {q : List NodePtr} (hd : s.dispatcher = .inCall)
    (hm : s.queueMutex = none) (hab : s.waiting.abort = false) (hq : s.queue = n :: q)
    (hh : s.handlers n = []) :
    Lts.runIf step (fun _ a => a.isPrompt) s dispatch = some (takenBy s n q) := by
  simp [Lts.runIf, dispatch, step, Enabled, next, State.waitTest, State.spawn, callbackQueuePop,
    hd, hm, hab, hq, hh, Action.isPrompt, takenBy]

/-- Where the callback of `n` has been handled while its owner has yet to look. -/
def handledBy (s : State) (n : NodePtr) (r : FnResult) : State :=
  { s with
    nodes := Function.update s.nodes n ⟨r.truth, true, none⟩
    handlers := Function.update s.handlers n [.exited r] }

/-- The handler's part, on a node that nobody has locked. -/
theorem runIf_handle {n : NodePtr} (r : FnResult) (hh : s.handlers n = [.created])
    (hm : (s.nodes n).mutex = none) (hpc : (s.producers n.tid).pc = .signalled) :
    Lts.runIf step (fun _ a => a.isPrompt) s (handle n r) = some (handledBy s n r) := by
  simp [Lts.runIf, handle, step, Enabled, next, HandlerAt, State.setHandler, State.setNode,
    State.setNodeMutex, State.signalNode, State.setProducer, hh, hm, hpc, Action.isPrompt,
    handledBy]
  rw [← hpc]

/-- Where the call of producer `t` has returned. -/
def leftBy (s : State) (t : Nat) : State :=
  { s with producers := Function.update s.producers t ⟨.outside, (s.producers t).calls + 1⟩ }

/-- The producer finds `handled` set without having slept, and returns. -/
theorem runIf_leave (hpc : (s.producers t).pc = .signalled)
    (hm : (s.nodes (s.current t)).mutex = none) (hh : (s.nodes (s.current t)).handled = true) :
    Lts.runIf step (fun _ a => a.isPrompt) s (leave t) = some (leftBy s t) := by
  rw [State.current] at hm hh
  have hnode : (⟨(s.nodes ⟨t, (s.producers t).calls⟩).rval, true, none⟩ : RantCallback) =
      s.nodes ⟨t, (s.producers t).calls⟩ := by
    rw [← hm, ← hh]
  simp [Lts.runIf, leave, step, Enabled, next, State.setNode, State.setNodeMutex,
    State.setProducer, State.current, hm, hh, hpc, hnode, Action.isPrompt, leftBy]

/-- The node of the next call of a producer has no thread yet. -/
theorem Calm.handlers_current (h : Calm s) (hpc : (s.producers t).pc = .outside) :
    s.handlers (s.current t) = [] := by
  obtain ⟨p, hAt, hFits⟩ := h.node (s.current t)
  obtain rfl := hFits.nowhere_of_early rfl (.inl hpc)
  exact hAt.handlers

/-- **Round.** A producer's call goes past everything on the queue: submit,
dispatch, handle and leave in a row, each starting where the one before has
left the threads. The callback goes on top of the queue and is the one that
the dispatcher takes. -/
theorem Open.round (h : Open s t) (hcalm : Calm s) (r : FnResult) :
    ∃ bs u, Lts.Exec step (fun _ a => a.isPrompt = true) s bs u ∧ Open u t ∧
      u.queue = s.queue ∧ (u.producers t).calls = (s.producers t).calls + 1 := by
  have hnil := hcalm.handlers_current h.producer
  have hsubmit := runIf_submit h
  have hdispatch := runIf_dispatch (s := queuedBy s t) (q := s.queue) h.dispatcher h.queueMutex
    h.noAbort rfl hnil
  have hhandle := runIf_handle (s := takenBy (queuedBy s t) (s.current t) s.queue)
    (n := s.current t) r
    (by simp [takenBy]) (by simp [takenBy, queuedBy]) (by simp [takenBy, queuedBy, State.current])
  have hcur : (handledBy (takenBy (queuedBy s t) (s.current t) s.queue) (s.current t) r).current t =
      s.current t := by
    simp [handledBy, takenBy, queuedBy, State.current]
  have hleave := runIf_leave (t := t)
    (s := handledBy (takenBy (queuedBy s t) (s.current t) s.queue) (s.current t) r)
    (by simp [handledBy, takenBy, queuedBy]) (by rw [hcur]; simp [handledBy])
    (by rw [hcur]; simp [handledBy])
  have hexec := ((Lts.exec_of_runIf (fun _ _ => id) hsubmit).append
    (Lts.exec_of_runIf (fun _ _ => id) hdispatch)).append
    ((Lts.exec_of_runIf (fun _ _ => id) hhandle).append
      (Lts.exec_of_runIf (fun _ _ => id) hleave))
  refine ⟨_, _, hexec, ⟨?_, ?_, ?_, ?_⟩, rfl, ?_⟩
  · exact h.dispatcher
  · exact h.queueMutex
  · rfl
  · simp [leftBy]
  · simp [leftBy, handledBy, takenBy, queuedBy]

end Round

theorem quiet_of_prompt {s : State} {a : Action} (h : a.isPrompt = true) : Quiet s a := by
  rintro rfl
  cases h

/-- **Overtaking.** In a run without an abort request, when the dispatcher is
about to look at the queue (it is in the call that waits, has not locked the
queue's mutex, and nobody else holds it): any producer that is not in a call
can make any number of calls, all handled and returned, while everything on
the queue stays where it is. No spurious wake-up is needed. -/
theorem overtaken {as : List Action} {s : State} {t : Nat} (h : Lts.Exec step Quiet init as s)
    (hopen : Open s t) (k : Nat) :
    ∃ bs u, Lts.Exec step (fun _ a => a.isPrompt = true) s bs u ∧ u.queue = s.queue ∧
      (u.producers t).calls = (s.producers t).calls + k := by
  suffices hround : ∃ bs u, Lts.Exec step (fun _ a => a.isPrompt = true) s bs u ∧ Open u t ∧
      u.queue = s.queue ∧ (u.producers t).calls = (s.producers t).calls + k by
    obtain ⟨bs, u, hrun, -, hq, hcalls⟩ := hround
    exact ⟨bs, u, hrun, hq, hcalls⟩
  induction k with
  | zero => exact ⟨[], s, .nil, hopen, rfl, rfl⟩
  | succ k ih =>
    obtain ⟨bs, u, hrun, hu, hq, hcalls⟩ := ih
    have hquiet : Lts.Exec step Quiet s bs u := hrun.mono fun _ _ => quiet_of_prompt
    obtain ⟨cs, v, hrun', hv, hq', hcalls'⟩ := hu.round (calm_exec (h.append hquiet))
      (.returned .true)
    exact ⟨_, v, hrun.append hrun', hv, hq'.trans hq, by omega⟩

/-- The dispatcher is about to wait; producer 0 has pushed its callback and unlocked. -/
def pushBeforeWait : List Action :=
  [.dispatcherLoop, .call 0, .lockQueue 0, .push 0, .unlockQueue 0]

/-- Producer 1 overtakes the callback of producer 0, which has not signalled
yet, any number of times. -/
theorem overtaken_pushBeforeWait :
    ∃ s, Lts.runIf step (fun s a => decide (Quiet s a)) init pushBeforeWait = some s ∧
      s.queue = [⟨0, 0⟩] ∧ ∀ k, ∃ bs u, Lts.Exec step (fun _ a => a.isPrompt = true) s bs u ∧
        u.queue = s.queue ∧ (u.producers 1).calls = (s.producers 1).calls + k := by
  have hrun : (Lts.runIf step (fun s a => decide (Quiet s a)) init pushBeforeWait).map
      (fun s => (s.dispatcher, s.queueMutex, s.waiting.abort, s.producers 1, s.queue)) =
      some (.inCall, none, false, ⟨.outside, 0⟩, [⟨0, 0⟩]) := by
    decide +kernel
  obtain ⟨s, hs, hval⟩ := Option.map_eq_some_iff.mp hrun
  simp only [Prod.mk.injEq] at hval
  obtain ⟨hd, hm, hab, hP, hq⟩ := hval
  have hexec := Lts.exec_of_runIf (G := Quiet) (fun s a h => by simpa using h) hs
  exact ⟨s, hs, hq, overtaken hexec ⟨hd, hm, hab, by rw [hP]⟩⟩

/-- The callback of producer 1 is on top of that of producer 0. -/
def pushTwice : List Action :=
  [.call 0, .lockQueue 0, .push 0, .unlockQueue 0, .call 1, .lockQueue 1, .push 1]

/-- Two callbacks are on the queue; the pop takes the one that came last. -/
theorem popped_newest_pushTwice :
    ∃ s log, Lts.Exec (Lts.logged step pushed) Lts.Any (init, []) pushTwice (s, log) ∧
      callbackQueuePop s.queue = (some ⟨1, 0⟩, [⟨0, 0⟩]) ∧
      ∀ m ∈ [(⟨0, 0⟩ : NodePtr)], [m, ⟨1, 0⟩].Sublist log := by
  have hrun : (Lts.runIf (Lts.logged step pushed) (fun _ _ => true) (init, []) pushTwice).map
      (fun y => y.1.queue) = some [⟨1, 0⟩, ⟨0, 0⟩] := by
    decide +kernel
  obtain ⟨⟨s, log⟩, hexec, hq⟩ := Lts.exec_of_computed hrun
  have hpop : callbackQueuePop s.queue = (some ⟨1, 0⟩, [⟨0, 0⟩]) := by
    rw [show s.queue = _ from hq]
    rfl
  exact ⟨s, log, hexec, hpop, popped_newest hexec hpop⟩

end AntWireless.Callbacks
