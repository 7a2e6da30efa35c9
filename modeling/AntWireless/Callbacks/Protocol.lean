import AntWireless.Lib.Exec
import AntWireless.Ruby
import Mathlib.Logic.Function.Basic

/-!
# AntWireless — the callback protocol of `callbacks.c`

Any number of producer threads call `rant_callback`; the dispatcher
(`callback_thread`, with `wait_for_callback_signal` inside
`rb_thread_call_without_gvl`) takes nodes off the global queue and starts one
thread of `handle_callback` for each; `stop_waiting_for_callback_signal` asks the
dispatcher to stop. The threads interleave freely.

An action of the model is what one thread does between two synchronisation
calls. Statements executed under a mutex that guards everything they touch are
one action with the pthread call that follows them: the test of a `while` loop
with the `pthread_cond_wait` it guards, and the writes of `handle_callback` with
the `pthread_cond_signal` after them.

* `State`, `Action` — the threads' program counters, the shared data, and the
  actions.
* `Enabled`, `next`, `step` — the step function.
* `derefs`, `Returned` — the nodes an action touches, and the nodes whose frame
  is gone.
-/

namespace AntWireless.Callbacks

/-! ## Shared data -/

/-- A `rant_callback_t *`: the node on the stack of the `call`-th
`rant_callback` call of producer thread `tid`. -/
structure NodePtr where
  tid : Nat
  call : Nat
  deriving DecidableEq, Repr

/-- Who may hold `callback->mutex`. -/
inductive NodeHolder
  | producer
  | handler (i : Nat)
  deriving DecidableEq, Repr

/-- Who may hold `rant_callback_mutex`. -/
inductive QueueHolder
  | producer (t : Nat)
  | dispatcher
  | unblocker
  deriving DecidableEq, Repr

/-- The fields of `rant_callback_t` the threads share. The `next` links are
the list `State.queue`; `fn` and `data` are what a run of `fn` does. -/
structure RantCallback where
  rval : Bool
  handled : Bool
  mutex : Option NodeHolder
  deriving DecidableEq, Repr

/-- `callback_waiting_t`, on the dispatcher's stack. -/
structure CallbackWaiting where
  callback : Option NodePtr
  abort : Bool
  deriving DecidableEq, Repr

/-- `callback_queue_push`: to the front. -/
def callbackQueuePush (callback : NodePtr) (queue : List NodePtr) : List NodePtr :=
  callback :: queue

/-- `callback_queue_pop`: from the front; `none` is `NULL`. -/
def callbackQueuePop : List NodePtr → Option NodePtr × List NodePtr
  | [] => (none, [])
  | callback :: next => (some callback, next)

/-! ## Program counters -/

/-- A producer thread in `rant_callback`. -/
inductive ProducerPc
  -- not in `rant_callback`
  | outside
  -- the node is initialised; about to lock `rant_callback_mutex`
  | entered
  -- holds `rant_callback_mutex`; about to push
  | queueLocked
  -- pushed; still holds `rant_callback_mutex`
  | pushed
  -- about to signal `rant_callback_cond`
  | unlocked
  -- about to lock `callback->mutex`
  | signalled
  -- holds `callback->mutex`; about to test `handled`
  | testing
  -- in `pthread_cond_wait` on `callback->cond`
  | asleep
  -- woken; wants `callback->mutex` back
  | woken
  -- saw `handled`; still holds `callback->mutex`
  | handledSeen
  -- about to destroy the node's mutex and condition and return
  | cleanup
  deriving DecidableEq, Repr

/-- The dispatcher thread in `callback_thread`. -/
inductive DispatcherPc
  -- about to test `waiting.abort == false`
  | loopTest
  -- in `rb_thread_call_without_gvl`; about to lock `rant_callback_mutex`
  | inCall
  -- holds `rant_callback_mutex`; about to evaluate the `while` condition
  | testing
  -- in `pthread_cond_wait` on `rant_callback_cond`
  | asleep
  -- woken; wants `rant_callback_mutex` back
  | woken
  -- left the `while` loop; still holds `rant_callback_mutex`
  | leaving
  -- about to return from `rb_thread_call_without_gvl`
  | unlocked
  -- back in the loop; about to test `waiting.callback`
  | back
  -- returned from `callback_thread`
  | exited
  deriving DecidableEq, Repr

/-- The thread running `stop_waiting_for_callback_signal`. -/
inductive UnblockerPc
  | idle
  -- about to lock `rant_callback_mutex`
  | called
  -- holds `rant_callback_mutex`; about to set `waiting->abort`
  | locked
  -- about to signal `rant_callback_cond`
  | aborted
  -- about to unlock
  | signalled
  deriving DecidableEq, Repr

/-- A thread of `handle_callback`. -/
inductive HandlerPc
  -- about to call `callback->fn` through `rb_protect`
  | created
  -- in `callback->fn`
  | running
  -- `rb_protect` returned; about to lock `callback->mutex`
  | ended (r : FnResult)
  -- holds `callback->mutex`; about to write `handled` and `rval` and signal
  | locked (r : FnResult)
  -- signalled; about to unlock
  | signalled (r : FnResult)
  -- left the node for good: returned, or jumped on with the exception
  | exited (r : FnResult)
  deriving DecidableEq, Repr

/-- A producer thread: its program counter and how many of its `rant_callback`
calls have returned. -/
structure Producer where
  pc : ProducerPc
  calls : Nat
  deriving DecidableEq, Repr

/-- All threads and shared data. `handlers n` are the `handle_callback`
threads created for node `n`, in order of creation. -/
structure State where
  nodes : NodePtr → RantCallback
  queueMutex : Option QueueHolder
  queue : List NodePtr
  waiting : CallbackWaiting
  producers : Nat → Producer
  dispatcher : DispatcherPc
  unblocker : UnblockerPc
  handlers : NodePtr → List HandlerPc

/-- The extension is loaded: the dispatcher has started and nobody has called. -/
def init : State where
  nodes _ := ⟨false, false, none⟩
  queueMutex := none
  queue := []
  waiting := ⟨none, false⟩
  producers _ := ⟨.outside, 0⟩
  dispatcher := .loopTest
  unblocker := .idle
  handlers _ := []

namespace State

/-- The node of the call producer `t` is in. -/
def current (s : State) (t : Nat) : NodePtr := ⟨t, (s.producers t).calls⟩

/-- Move producer `t`. -/
def setProducer (s : State) (t : Nat) (pc : ProducerPc) : State :=
  { s with producers := Function.update s.producers t { s.producers t with pc := pc } }

/-- Write a node. -/
def setNode (s : State) (n : NodePtr) (c : RantCallback) : State :=
  { s with nodes := Function.update s.nodes n c }

/-- Move handler `i` of node `n`. -/
def setHandler (s : State) (n : NodePtr) (i : Nat) (pc : HandlerPc) : State :=
  { s with handlers := Function.update s.handlers n ((s.handlers n).set i pc) }

/-- Hand over or take `callback->mutex`. -/
def setNodeMutex (s : State) (n : NodePtr) (h : Option NodeHolder) : State :=
  s.setNode n { s.nodes n with mutex := h }

/-- `pthread_cond_signal( &rant_callback_cond )`: only the dispatcher waits there. -/
def signalQueue (s : State) : State :=
  { s with dispatcher := if s.dispatcher = .asleep then .woken else s.dispatcher }

/-- `pthread_cond_signal( &callback->cond )`: only the owner waits there. -/
def signalNode (s : State) (n : NodePtr) : State :=
  s.setProducer n.tid
    (if (s.producers n.tid).pc = .asleep ∧ (s.producers n.tid).calls = n.call then .woken
      else (s.producers n.tid).pc)

end State

/-! ## Actions -/

/-- What one thread does next. Spurious wake-ups are actions of their own. -/
inductive Action
  -- a producer calls `rant_callback`: initialise the node
  | call (t : Nat)
  | lockQueue (t : Nat)
  | push (t : Nat)
  | unlockQueue (t : Nat)
  | signalQueue (t : Nat)
  | lockNode (t : Nat)
  -- test `handled`; sleep if it is not set
  | testHandled (t : Nat)
  | wakeSpuriously (t : Nat)
  | relockNode (t : Nat)
  | unlockNode (t : Nat)
  -- destroy the mutex and the condition; return `callback->rval`
  | ret (t : Nat)
  -- test `waiting.abort`; enter `rb_thread_call_without_gvl`
  | dispatcherLoop
  | dispatcherLock
  -- evaluate the condition of the `while` loop; sleep if it holds
  | dispatcherTest
  | dispatcherWakeSpuriously
  | dispatcherRelock
  | dispatcherUnlock
  -- return from `rb_thread_call_without_gvl`
  | dispatcherReturn
  -- test `waiting.callback`; create a thread of `handle_callback`
  | dispatcherSpawn
  -- ruby calls `stop_waiting_for_callback_signal`
  | unblockerCall
  | unblockerLock
  -- `waiting->abort = true`
  | unblockerAbort
  | unblockerSignal
  | unblockerUnlock
  -- enter `callback->fn`
  | handlerRun (n : NodePtr) (i : Nat)
  -- `callback->fn` ends, by a return or by an exception
  | handlerEnd (n : NodePtr) (i : Nat) (r : FnResult)
  | handlerLock (n : NodePtr) (i : Nat) (r : FnResult)
  -- write `handled` and `rval`; signal `callback->cond`
  | handlerComplete (n : NodePtr) (i : Nat) (r : FnResult)
  | handlerUnlock (n : NodePtr) (i : Nat) (r : FnResult)
  deriving DecidableEq, Repr

/-- The dispatcher is inside `rb_thread_call_without_gvl`. -/
def DispatcherPc.insideCall : DispatcherPc → Bool
  | .inCall | .testing | .asleep | .woken | .leaving | .unlocked => true
  | _ => false

/-- Handler `i` of node `n` is at `pc`. -/
def HandlerAt (s : State) (n : NodePtr) (i : Nat) (pc : HandlerPc) : Prop :=
  (s.handlers n)[i]? = some pc

instance (s : State) (n : NodePtr) (i : Nat) (pc : HandlerPc) : Decidable (HandlerAt s n i pc) :=
  inferInstanceAs (Decidable (_ = _))

/-- The thread of the action is there, and the mutex it locks is free. -/
def Enabled (s : State) : Action → Prop
  | .call t => (s.producers t).pc = .outside
  | .lockQueue t => (s.producers t).pc = .entered ∧ s.queueMutex = none
  | .push t => (s.producers t).pc = .queueLocked
  | .unlockQueue t => (s.producers t).pc = .pushed
  | .signalQueue t => (s.producers t).pc = .unlocked
  | .lockNode t => (s.producers t).pc = .signalled ∧ (s.nodes (s.current t)).mutex = none
  | .testHandled t => (s.producers t).pc = .testing
  | .wakeSpuriously t => (s.producers t).pc = .asleep
  | .relockNode t => (s.producers t).pc = .woken ∧ (s.nodes (s.current t)).mutex = none
  | .unlockNode t => (s.producers t).pc = .handledSeen
  | .ret t => (s.producers t).pc = .cleanup
  | .dispatcherLoop => s.dispatcher = .loopTest
  | .dispatcherLock => s.dispatcher = .inCall ∧ s.queueMutex = none
  | .dispatcherTest => s.dispatcher = .testing
  | .dispatcherWakeSpuriously => s.dispatcher = .asleep
  | .dispatcherRelock => s.dispatcher = .woken ∧ s.queueMutex = none
  | .dispatcherUnlock => s.dispatcher = .leaving
  | .dispatcherReturn => s.dispatcher = .unlocked
  | .dispatcherSpawn => s.dispatcher = .back
  | .unblockerCall => s.unblocker = .idle ∧ s.dispatcher.insideCall = true
  | .unblockerLock => s.unblocker = .called ∧ s.queueMutex = none
  | .unblockerAbort => s.unblocker = .locked
  | .unblockerSignal => s.unblocker = .aborted
  | .unblockerUnlock => s.unblocker = .signalled
  | .handlerRun n i => HandlerAt s n i .created
  | .handlerEnd n i _ => HandlerAt s n i .running
  | .handlerLock n i r => HandlerAt s n i (.ended r) ∧ (s.nodes n).mutex = none
  | .handlerComplete n i r => HandlerAt s n i (.locked r)
  | .handlerUnlock n i r => HandlerAt s n i (.signalled r)

instance (s : State) (a : Action) : Decidable (Enabled s a) := by
  cases a <;> unfold Enabled <;> infer_instance

/-- The condition of the `while` loop of `wait_for_callback_signal`. With the
abort flag set the `&&` stops short: nothing is popped and `waiting->callback`
is not written. -/
def State.waitTest (s : State) : State :=
  if s.waiting.abort = false then
    match callbackQueuePop s.queue with
    | (none, queue) =>
      { s with
        waiting := { s.waiting with callback := none }
        queue := queue, dispatcher := .asleep, queueMutex := none }
    | (some callback, queue) =>
      { s with
        waiting := { s.waiting with callback := some callback }
        queue := queue, dispatcher := .leaving }
  else { s with dispatcher := .leaving }

/-- `if ( waiting.callback ) rb_thread_create( handle_callback, waiting.callback )`. -/
def State.spawn (s : State) : State :=
  match s.waiting.callback with
  | some n =>
    { s with
      handlers := Function.update s.handlers n (s.handlers n ++ [.created])
      dispatcher := .loopTest }
  | none => { s with dispatcher := .loopTest }

/-- What the action does. -/
def next (s : State) : Action → State
  | .call t =>
    (s.setNode (s.current t) ⟨(s.nodes (s.current t)).rval, false, none⟩).setProducer t .entered
  | .lockQueue t => { s.setProducer t .queueLocked with queueMutex := some (.producer t) }
  | .push t => { s.setProducer t .pushed with queue := callbackQueuePush (s.current t) s.queue }
  | .unlockQueue t => { s.setProducer t .unlocked with queueMutex := none }
  | .signalQueue t => (s.setProducer t .signalled).signalQueue
  | .lockNode t | .relockNode t =>
    (s.setProducer t .testing).setNodeMutex (s.current t) (some .producer)
  | .testHandled t =>
    if (s.nodes (s.current t)).handled = false then
      (s.setProducer t .asleep).setNodeMutex (s.current t) none
    else s.setProducer t .handledSeen
  | .wakeSpuriously t => s.setProducer t .woken
  | .unlockNode t => (s.setProducer t .cleanup).setNodeMutex (s.current t) none
  | .ret t =>
    { s with producers := Function.update s.producers t ⟨.outside, (s.producers t).calls + 1⟩ }
  | .dispatcherLoop =>
    { s with dispatcher := if s.waiting.abort = false then .inCall else .exited }
  | .dispatcherLock | .dispatcherRelock =>
    { s with dispatcher := .testing, queueMutex := some .dispatcher }
  | .dispatcherTest => s.waitTest
  | .dispatcherWakeSpuriously => { s with dispatcher := .woken }
  | .dispatcherUnlock => { s with dispatcher := .unlocked, queueMutex := none }
  | .dispatcherReturn => { s with dispatcher := .back }
  | .dispatcherSpawn => s.spawn
  | .unblockerCall => { s with unblocker := .called }
  | .unblockerLock => { s with unblocker := .locked, queueMutex := some .unblocker }
  | .unblockerAbort =>
    { s with unblocker := .aborted, waiting := { s.waiting with abort := true } }
  | .unblockerSignal => { s.signalQueue with unblocker := .signalled }
  | .unblockerUnlock => { s with unblocker := .idle, queueMutex := none }
  | .handlerRun n i => s.setHandler n i .running
  | .handlerEnd n i r => s.setHandler n i (.ended r)
  | .handlerLock n i r => (s.setHandler n i (.locked r)).setNodeMutex n (some (.handler i))
  | .handlerComplete n i r =>
    ((s.setHandler n i (.signalled r)).setNode n
      { s.nodes n with handled := true, rval := r.truth }).signalNode n
  | .handlerUnlock n i r => (s.setHandler n i (.exited r)).setNodeMutex n none

/-- The step function of the protocol. -/
def step (s : State) (a : Action) : Option State :=
  if Enabled s a then some (next s a) else none

/-- The step function's two halves: a guard, and an effect that is defined
whether or not the guard holds. Proofs about a step start by taking it apart
here. -/
theorem step_eq_some {s s' : State} {a : Action} :
    step s a = some s' ↔ Enabled s a ∧ s' = next s a := by
  rw [step, Option.ite_none_right_eq_some, Option.some.injEq, eq_comm (a := s')]

/-! ## Lifetime of the nodes -/

/-- The nodes an action reads or writes through a pointer. A pop reads the
`next` link of the node it takes; a handler reads `fn` and `data`, which lie
in frames that are gone together with the node's. -/
def derefs (s : State) : Action → List NodePtr
  | .call t | .push t | .lockNode t | .testHandled t | .wakeSpuriously t | .relockNode t
  | .unlockNode t | .ret t => [s.current t]
  | .dispatcherTest => if s.waiting.abort = false then s.queue.head?.toList else []
  | .handlerRun n _ | .handlerEnd n _ _ | .handlerLock n _ _ | .handlerComplete n _ _
  | .handlerUnlock n _ _ => [n]
  | _ => []

/-- The `rant_callback` call that owns the node has returned. -/
def Returned (s : State) (n : NodePtr) : Prop := n.call < (s.producers n.tid).calls

end AntWireless.Callbacks
