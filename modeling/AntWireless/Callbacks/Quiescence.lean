import AntWireless.Callbacks.Dispatch
import AntWireless.Callbacks.Gvl
import AntWireless.Callbacks.Progress
import AntWireless.Lib.Rank

/-!
# AntWireless — the callback protocol runs out of work

Left alone (no new call, no spurious wake-up, no new abort request), the protocol
stops after a bounded number of steps, whatever the scheduler picks. What it leaves
behind is either nothing, or, once the dispatcher has been told to stop, the
callbacks that were still on the queue.

* `State.rank` — the work that is left; `rank_lt` — every step of it lowers the rank.
* `Stuck` — no work is left; `Stuck.producer` — where the producers are then.
* `runs_out_of_work` — the bound, and what is true at the end.
-/

namespace AntWireless.Callbacks

/-- The steps of threads that are already at it: not a new call, not a
spurious wake-up, not a new abort request. -/
def Action.isWork : Action → Bool
  | .call _ | .wakeSpuriously _ | .dispatcherWakeSpuriously | .unblockerCall => false
  | _ => true

/-- A step of work that does not raise the abort flag over a stale callback. -/
def Works (s : State) (a : Action) : Prop := a.isWork = true ∧ ¬ StaleAbort s a

/-- No thread has any work left. -/
def Stuck (s : State) : Prop := ∀ a : Action, a.isWork = true → ¬ Enabled s a

-- ---------------------------------------------------------------------------
-- The rank
-- ---------------------------------------------------------------------------

/-- A pushed node is paid for by the push, and the signal by its sender. -/
def ProducerPc.rank : ProducerPc → Nat
  | .outside => 0
  | .entered => 25
  | .queueLocked => 24
  | .pushed => 10
  | .unlocked => 9
  | .signalled => 6
  | .woken => 5
  | .testing => 4
  | .asleep => 3
  | .handledSeen => 2
  | .cleanup => 1

def HandlerPc.rank : HandlerPc → Nat
  | .created => 7
  | .running => 6
  | .ended _ => 5
  | .locked _ => 4
  | .signalled _ => 1
  | .exited _ => 0

/-- The work left on a callback in this place. -/
def Place.rank : Place → Nat
  | .nowhere => 0
  | .queued => 13
  | .waiting => 7
  | .handed pc => pc.rank

/-- With the abort flag set the dispatcher still has its way out before it. -/
def DispatcherPc.rank (abort : Bool) : DispatcherPc → Nat
  | .loopTest => 3
  | .inCall => if abort then 8 else 2
  | .testing => if abort then 7 else 1
  | .asleep => if abort then 7 else 0
  | .woken => if abort then 8 else 2
  | .leaving => 6
  | .unlocked => 5
  | .back => 4
  | .exited => 0

def UnblockerPc.rank : UnblockerPc → Nat
  | .idle => 0
  | .called => 13
  | .locked => 12
  | .aborted => 4
  | .signalled => 1

namespace State

/-- The work left on the callback of node `n`, its owner's apart. -/
def nodeRank (s : State) (n : NodePtr) : Nat :=
  13 * s.queue.count n + (if s.pending = some n then 7 else 0) +
    ((s.handlers n).map HandlerPc.rank).sum

/-- The work left in the call producer `t` is in. -/
def weight (s : State) (t : Nat) : Nat :=
  (s.producers t).pc.rank + s.nodeRank (s.current t)

/-- The work left for the dispatcher and the unblocking function. -/
def controlRank (s : State) : Nat :=
  s.dispatcher.rank s.waiting.abort + s.unblocker.rank

/-- The work left, where all producers inside `rant_callback` are in `T`. -/
def rank (T : Finset Nat) (s : State) : Nat := ∑ t ∈ T, s.weight t + s.controlRank

/-- Every producer inside `rant_callback` is in `T`. -/
def Covers (s : State) (T : Finset Nat) : Prop :=
  ∀ t, (s.producers t).pc ≠ .outside → t ∈ T

end State

theorem nodeRank_congr {s s' : State} {n : NodePtr} (hq : s'.queue.count n = s.queue.count n)
    (hp : s'.pending = some n ↔ s.pending = some n) (hh : s'.handlers n = s.handlers n) :
    s'.nodeRank n = s.nodeRank n := by
  unfold State.nodeRank
  rw [hq, hh, if_congr hp rfl rfl]

/-- A producer keeps its weight where it, its node's place and its handler are
untouched. -/
theorem weight_congr {s s' : State} {t : Nat} (hP : s'.producers t = s.producers t)
    (hq : s'.queue.count (s.current t) = s.queue.count (s.current t))
    (hp : s'.pending = some (s.current t) ↔ s.pending = some (s.current t))
    (hh : s'.handlers (s.current t) = s.handlers (s.current t)) : s'.weight t = s.weight t := by
  have hcur : s'.current t = s.current t := by
    rw [State.current, State.current, hP]
  unfold State.weight
  rw [hcur, hP, nodeRank_congr hq hp hh]

theorem At.nodeRank {s : State} {n : NodePtr} {p : Place} (h : At s n p) :
    s.nodeRank n = p.rank := by
  unfold State.nodeRank
  rw [h.queue, h.handlers, if_congr h.pending rfl rfl]
  cases p <;> simp [Place.handlers, Place.rank]

/-- A node of the call that its thread is in is the thread's current one. -/
theorem current_tid {s : State} {n : NodePtr} (hc : (s.producers n.tid).calls = n.call) :
    s.current n.tid = n := by
  cases n
  rw [State.current]
  exact congrArg _ hc

/-- A signal to the dispatcher adds two steps at most: waking up, and taking
the mutex back. The thread that signals pays for them. -/
theorem controlRank_signalQueue (s : State) :
    s.signalQueue.controlRank ≤ s.controlRank + 2 := by
  unfold State.controlRank State.signalQueue
  by_cases hd : s.dispatcher = .asleep
  · cases s.waiting.abort <;> simp [hd, DispatcherPc.rank] <;> omega
  · simp [hd]

-- ---------------------------------------------------------------------------
-- One step lowers the rank
-- ---------------------------------------------------------------------------

section Step

variable {s s' : State} {T : Finset Nat}

theorem producers_setProducer (s : State) (t : Nat) (pc : ProducerPc) :
    (s.setProducer t pc).producers t = { s.producers t with pc := pc } :=
  Function.update_self ..

theorem producers_setProducer_ne {t u : Nat} (hu : u ≠ t) (pc : ProducerPc) :
    (s.setProducer t pc).producers u = s.producers u :=
  Function.update_of_ne hu _ _

/-- A producer's move, which may signal the dispatcher. Only its own weight
and the dispatcher's rank change, and their sum goes down. -/
theorem rank_moveProducer {t : Nat} (hT : s.Covers T) (hin : (s.producers t).pc ≠ .outside)
    (hP : ∀ u, u ≠ t → s'.producers u = s.producers u) (hq : s'.queue = s.queue)
    (hp : s'.pending = s.pending) (hh : s'.handlers = s.handlers)
    (hlt : s'.weight t + s'.controlRank < s.weight t + s.controlRank) :
    s'.rank T < s.rank T :=
  Lts.sum_add_lt_of_move (hT t hin)
    (fun u hu => weight_congr (hP u hu) (by rw [hq]) (by rw [hp]) (by rw [hh])) hlt

/-- Where the owner stays in its call, its weight changes with its program counter. -/
theorem rank_setProducer {t : Nat} {P : ProducerPc} (hT : s.Covers T)
    (hin : (s.producers t).pc ≠ .outside) (hP : s'.producers = (s.setProducer t P).producers)
    (hq : s'.queue = s.queue) (hp : s'.pending = s.pending) (hh : s'.handlers = s.handlers)
    (hlt : P.rank + s'.controlRank < (s.producers t).pc.rank + s.controlRank) :
    s'.rank T < s.rank T := by
  refine rank_moveProducer hT hin (fun u hu => ?_) hq hp hh ?_
  · rw [hP, producers_setProducer_ne hu]
  · have hcur : s'.current t = s.current t := by
      rw [State.current, State.current, hP, producers_setProducer]
    have hpc : (s'.producers t).pc = P := by
      rw [hP, producers_setProducer]
    have hnode : s'.nodeRank (s.current t) = s.nodeRank (s.current t) :=
      nodeRank_congr (by rw [hq]) (by rw [hp]) (by rw [hh])
    unfold State.weight
    rw [hcur, hpc, hnode]
    omega

/-- A move of the dispatcher or of the unblocking function that leaves the
callbacks where they are. -/
theorem rank_control (hP : s'.producers = s.producers) (hq : s'.queue = s.queue)
    (hp : s'.pending = s.pending) (hh : s'.handlers = s.handlers)
    (hlt : s'.controlRank < s.controlRank) : s'.rank T < s.rank T := by
  have hsum : ∑ t ∈ T, s'.weight t = ∑ t ∈ T, s.weight t :=
    Finset.sum_congr rfl fun t _ =>
      weight_congr (by rw [hP]) (by rw [hq]) (by rw [hp]) (by rw [hh])
  unfold State.rank
  rw [hsum]
  omega

/-- A node moves on, and with it the weight of its owner, which is inside its
call. The owner's counter, the node's place and the dispatcher's rank may all
change, and their sum goes down. -/
theorem rank_moveNode {n : NodePtr} (hT : s.Covers T)
    (hc : (s.producers n.tid).calls = n.call) (hin : (s.producers n.tid).pc ≠ .outside)
    (hP : ∀ u, u ≠ n.tid → s'.producers u = s.producers u)
    (hcalls : (s'.producers n.tid).calls = n.call)
    (hother : ∀ m, m ≠ n → s'.queue.count m = s.queue.count m ∧
      (s'.pending = some m ↔ s.pending = some m) ∧ s'.handlers m = s.handlers m)
    (hlt : (s'.producers n.tid).pc.rank + s'.nodeRank n + s'.controlRank <
      (s.producers n.tid).pc.rank + s.nodeRank n + s.controlRank) :
    s'.rank T < s.rank T := by
  refine Lts.sum_add_lt_of_move (hT _ hin) (fun u hu => ?_) ?_
  · have hne : s.current u ≠ n := fun e => hu (congrArg NodePtr.tid e)
    obtain ⟨hq, hp, hh⟩ := hother _ hne
    exact weight_congr (hP u hu) hq hp hh
  · unfold State.weight
    rwa [current_tid hc, current_tid hcalls]

theorem awaiting_ne_outside {pc : ProducerPc} (h : pc.awaiting = true) : pc ≠ .outside := by
  rintro rfl
  cases h

/-- The owner of a queued node is inside the call that pushed it. -/
theorem NodeOk.inside_of_queued {n : NodePtr} (h : NodeOk s n) (hq : n ∈ s.queue) :
    (s.producers n.tid).calls = n.call ∧ (s.producers n.tid).pc ≠ .outside := by
  obtain ⟨p, hAt, hFits⟩ := h
  have hcount := List.count_pos_iff.mpr hq
  obtain rfl : p = .queued := by
    by_contra hne
    rw [hAt.queue, if_neg hne] at hcount
    exact absurd hcount (lt_irrefl 0)
  exact ⟨hFits.1, awaiting_ne_outside hFits.2.1⟩

/-- So is the owner of the node that the dispatcher is about to hand out. -/
theorem NodeOk.inside_of_pending {n : NodePtr} (h : NodeOk s n) (hp : s.pending = some n) :
    (s.producers n.tid).calls = n.call ∧ (s.producers n.tid).pc ≠ .outside := by
  obtain ⟨p, hAt, hFits⟩ := h
  obtain rfl := hAt.pending.mp hp
  exact ⟨hFits.1, awaiting_ne_outside hFits.2.1⟩

/-- And so is the owner of a node whose handler has not left it. -/
theorem NodeOk.inside_of_handler {n : NodePtr} {i : Nat} {pc : HandlerPc} (h : NodeOk s n)
    (hi : HandlerAt s n i pc) (hpc : ∀ r, pc ≠ .exited r) :
    (s.producers n.tid).calls = n.call ∧ (s.producers n.tid).pc ≠ .outside := by
  obtain ⟨-, -, hFits⟩ := h.handed hi
  cases pc with
  | exited r => exact absurd rfl (hpc r)
  | created | running | ended r => exact ⟨hFits.1, awaiting_ne_outside hFits.2.1⟩
  | locked r | signalled r => exact ⟨hFits.1, awaiting_ne_outside hFits.2.1⟩

/-- A handler's move lowers the rank. Where it completes its node it may wake
the owner, which then has two steps more; the handler's own rank goes down by
three for that. -/
theorem rank_moveHandler {n : NodePtr} {i : Nat} {pc H : HandlerPc} {P : ProducerPc}
    (h : Inv s) (hT : s.Covers T) (hi : HandlerAt s n i pc) (hpc : ∀ r, pc ≠ .exited r)
    (hP : s'.producers = (s.setProducer n.tid P).producers) (hq : s'.queue = s.queue)
    (hp : s'.pending = s.pending) (hh : s'.handlers = (s.setHandler n i H).handlers)
    (hc : s'.controlRank = s.controlRank)
    (hlt : P.rank + H.rank < (s.producers n.tid).pc.rank + pc.rank) :
    s'.rank T < s.rank T := by
  obtain ⟨hcalls, hin⟩ := (h.node n).inside_of_handler hi hpc
  obtain ⟨rfl, hAt, -⟩ := (h.node n).handed hi
  have hAt' : At s' n (.handed H) := by
    refine ⟨by rw [hq, hAt.queue]; simp, by rw [hp, hAt.pending]; simp, ?_⟩
    rw [hh]
    simp [State.setHandler, hAt.handlers, Place.handlers]
  refine rank_moveNode (n := n) hT hcalls hin (fun u hu => ?_) ?_ (fun m hm => ⟨?_, ?_, ?_⟩) ?_
  · rw [hP, producers_setProducer_ne hu]
  · rw [hP, producers_setProducer]
    exact hcalls
  · rw [hq]
  · rw [hp]
  · rw [hh]
    exact Function.update_of_ne hm _ _
  · rw [hAt.nodeRank, hAt'.nodeRank, hP, producers_setProducer, hc]
    simpa [Place.rank] using hlt

/-- The push itself pays for everything that will be done with the node. -/
theorem rank_push {t : Nat} (h : Inv s) (hT : s.Covers T)
    (hpc : (s.producers t).pc = .queueLocked) : (next s (.push t)).rank T < s.rank T := by
  obtain ⟨p, hAt, hFits⟩ := h.node (s.current t)
  obtain rfl := hFits.nowhere_of_early rfl (.inr (.inr hpc))
  have hAt' : At (next s (.push t)) (s.current t) .queued :=
    ⟨by simpa [next, callbackQueuePush] using hAt.queue, hAt.pending.trans (by simp), hAt.handlers⟩
  have hself : ((next s (.push t)).producers t) = { s.producers t with pc := .pushed } :=
    producers_setProducer s t .pushed
  refine rank_moveNode (n := s.current t) hT rfl (by simp [State.current, hpc])
    (fun u hu => producers_setProducer_ne hu .pushed) ?_ (fun m hm => ⟨?_, Iff.rfl, rfl⟩) ?_
  · show ((next s (.push t)).producers t).calls = (s.producers t).calls
    rw [hself]
  · simp [next, callbackQueuePush, State.setProducer, Ne.symm hm]
  · have hctl : (next s (.push t)).controlRank = s.controlRank := rfl
    rw [hAt.nodeRank, hAt'.nodeRank, hctl, show (s.current t).tid = t from rfl, hself, hpc]
    simp [ProducerPc.rank, Place.rank]

/-- The call ends; the node of the next call is nowhere yet, and has no work
on it. The producer is outside and counts no more. -/
theorem rank_ret {t : Nat} (h : Inv s) (hT : s.Covers T) (hpc : (s.producers t).pc = .cleanup) :
    (next s (.ret t)).rank T < s.rank T := by
  refine rank_moveProducer hT (t := t) (by simp [hpc]) (fun u hu => ?_) rfl rfl rfl ?_
  · simp [next, Function.update_of_ne hu]
  · obtain ⟨p, hAt, hFits⟩ := h.node ⟨t, (s.producers t).calls + 1⟩
    obtain rfl : p = .nowhere := by
      cases p with
      | nowhere => rfl
      | queued | waiting => exact absurd hFits.1 (by simp)
      | handed hp =>
        cases hp with
        | exited r =>
          rcases hFits with hlt | ⟨hc, -⟩
          · exact absurd hlt (by simp)
          · exact absurd hc (by simp)
        | _ => exact absurd hFits.1 (by simp)
    have hnew : (next s (.ret t)).weight t = 0 := by
      have hnode : (next s (.ret t)).nodeRank ⟨t, (s.producers t).calls + 1⟩ = 0 :=
        hAt.nodeRank
      simpa [State.weight, State.current, next, ProducerPc.rank] using hnode
    have hctl : (next s (.ret t)).controlRank = s.controlRank := rfl
    have hpos : 0 < s.weight t := by simp [State.weight, hpc, ProducerPc.rank]
    omega

/-- The pop takes a node off the queue, which pays for the dispatcher's round:
the way out of the wait, the spawn, and the way back. A test that finds
nothing puts the dispatcher to sleep, or on its way out for good. -/
theorem rank_dispatcherTest (h : Inv s) (hT : s.Covers T) (hpc : s.dispatcher = .testing) :
    (next s .dispatcherTest).rank T < s.rank T := by
  have hpend : s.pending = none := by rw [State.pending, hpc]
  cases hab : s.waiting.abort with
  | true =>
    have hnull := h.abortNull (.inr hpc) hab
    apply rank_control <;>
      simp [next, State.waitTest, hab, hnull, State.pending, hpc, State.controlRank,
        DispatcherPc.rank]
  | false =>
    cases hq : s.queue with
    | nil =>
      apply rank_control <;>
        simp [next, State.waitTest, hab, hq, callbackQueuePop, State.pending, hpc,
          State.controlRank, DispatcherPc.rank]
    | cons n q =>
      obtain ⟨hcalls, hin⟩ := (h.node n).inside_of_queued (hq ▸ List.mem_cons_self)
      have hnext : next s .dispatcherTest =
          { s with
            waiting := { s.waiting with callback := some n }, queue := q
            dispatcher := .leaving } := by
        simp [next, State.waitTest, hab, hq, callbackQueuePop]
      rw [hnext]
      refine rank_moveNode (n := n) hT hcalls hin (fun u _ => rfl) hcalls
        (fun m hm => ⟨?_, ?_, rfl⟩) ?_
      · simp [hq, Ne.symm hm]
      · simp [State.pending, hpc, Ne.symm hm]
      · simp [State.nodeRank, hq, State.pending, hpc, State.controlRank, DispatcherPc.rank, hab]
        omega

/-- The pending callback gets a thread, whose steps take the place of what was
left of the callback, and the dispatcher is back at its loop. -/
theorem rank_dispatcherSpawn (h : Inv s) (hT : s.Covers T) (hpc : s.dispatcher = .back) :
    (next s .dispatcherSpawn).rank T < s.rank T := by
  have hpend : s.pending = s.waiting.callback := by rw [State.pending, hpc]
  cases hcb : s.waiting.callback with
  | none =>
    apply rank_control <;>
      simp [next, State.spawn, hcb, State.pending, hpc, State.controlRank, DispatcherPc.rank]
  | some n =>
    obtain ⟨hcalls, hin⟩ := (h.node n).inside_of_pending (hpend.trans hcb)
    have hnext : next s .dispatcherSpawn =
        { s with
          handlers := Function.update s.handlers n (s.handlers n ++ [.created])
          dispatcher := .loopTest } := by
      simp [next, State.spawn, hcb]
    rw [hnext]
    refine rank_moveNode (n := n) hT hcalls hin (fun u _ => rfl) hcalls
      (fun m hm => ⟨rfl, ?_, ?_⟩) ?_
    · simp [State.pending, hpc, hcb, Ne.symm hm]
    · exact Function.update_of_ne hm _ _
    · simp [State.nodeRank, State.pending, hpc, hcb, State.controlRank, DispatcherPc.rank,
        HandlerPc.rank]
      omega

/-- **Step.** A step of work lowers the rank, whatever thread takes it. The
cases are the producer's moves, those of the dispatcher and the unblocking
function, and the handler's; what one thread leaves to another to do has been
counted with the first. -/
theorem rank_lt {a : Action} (h : Inv s) (hT : s.Covers T) (hw : a.isWork = true)
    (hen : Enabled s a) : (next s a).rank T < s.rank T := by
  cases a with
  | call t | wakeSpuriously t | dispatcherWakeSpuriously | unblockerCall => cases hw
  | lockQueue t =>
    refine rank_setProducer (t := t) (P := .queueLocked) hT (by simp [hen.1]) rfl rfl rfl rfl ?_
    rw [hen.1]
    exact Nat.add_lt_add_right (by decide) _
  | push t => exact rank_push h hT hen
  | unlockQueue t =>
    have hpc : (s.producers t).pc = .pushed := hen
    refine rank_setProducer (t := t) (P := .unlocked) hT (by simp [hpc]) rfl rfl rfl rfl ?_
    rw [hpc]
    exact Nat.add_lt_add_right (by decide) _
  | signalQueue t =>
    have hpc : (s.producers t).pc = .unlocked := hen
    refine rank_setProducer (t := t) (P := .signalled) hT (by simp [hpc]) rfl rfl
      (pending_signalQueue _) rfl ?_
    have hctl : (next s (.signalQueue t)).controlRank ≤ s.controlRank + 2 :=
      controlRank_signalQueue (s.setProducer t .signalled)
    simp only [hpc, ProducerPc.rank]
    omega
  | lockNode t | relockNode t =>
    refine rank_setProducer (t := t) (P := .testing) hT (by simp [hen.1]) rfl rfl rfl rfl ?_
    rw [hen.1]
    exact Nat.add_lt_add_right (by decide) _
  | testHandled t =>
    have hpc : (s.producers t).pc = .testing := hen
    rw [next]
    split
    · refine rank_setProducer (t := t) (P := .asleep) hT (by simp [hpc]) rfl rfl rfl rfl ?_
      rw [hpc]
      exact Nat.add_lt_add_right (by decide) _
    · refine rank_setProducer (t := t) (P := .handledSeen) hT (by simp [hpc]) rfl rfl rfl rfl ?_
      rw [hpc]
      exact Nat.add_lt_add_right (by decide) _
  | unlockNode t =>
    have hpc : (s.producers t).pc = .handledSeen := hen
    refine rank_setProducer (t := t) (P := .cleanup) hT (by simp [hpc]) rfl rfl rfl rfl ?_
    rw [hpc]
    exact Nat.add_lt_add_right (by decide) _
  | ret t => exact rank_ret h hT hen
  | dispatcherLoop =>
    have hpc : s.dispatcher = .loopTest := hen
    cases hab : s.waiting.abort <;> apply rank_control <;>
      simp [next, State.pending, hpc, hab, State.controlRank, DispatcherPc.rank]
  | dispatcherLock | dispatcherRelock =>
    have hpc := hen.1
    cases hab : s.waiting.abort <;> apply rank_control <;>
      simp [next, State.pending, hpc, hab, State.controlRank, DispatcherPc.rank]
  | dispatcherTest => exact rank_dispatcherTest h hT hen
  | dispatcherUnlock | dispatcherReturn =>
    have hpc := hen
    rw [Enabled] at hpc
    apply rank_control <;>
      simp [next, State.pending, hpc, State.controlRank, DispatcherPc.rank]
  | dispatcherSpawn => exact rank_dispatcherSpawn h hT hen
  | unblockerLock =>
    refine rank_control rfl rfl rfl rfl ?_
    simp [next, State.controlRank, hen.1, UnblockerPc.rank]
  | unblockerAbort =>
    have hpc : s.unblocker = .locked := hen
    refine rank_control rfl rfl rfl rfl ?_
    cases hd : s.dispatcher <;> cases hab : s.waiting.abort <;>
      simp [next, State.controlRank, hpc, hd, hab, UnblockerPc.rank, DispatcherPc.rank]
  | unblockerSignal =>
    have hpc : s.unblocker = .aborted := hen
    refine rank_control rfl rfl (pending_signalQueue s) rfl ?_
    cases hd : s.dispatcher <;> cases hab : s.waiting.abort <;>
      simp [next, State.signalQueue, State.controlRank, hpc, hd, hab, UnblockerPc.rank,
        DispatcherPc.rank]
  | unblockerUnlock =>
    have hpc : s.unblocker = .signalled := hen
    refine rank_control rfl rfl rfl rfl ?_
    simp [next, State.controlRank, hpc, UnblockerPc.rank]
  | handlerRun n i =>
    exact rank_moveHandler (H := .running) (P := (s.producers n.tid).pc) h hT hen (by simp)
      (Function.update_eq_self ..).symm rfl rfl rfl rfl (by simp [HandlerPc.rank])
  | handlerEnd n i r =>
    exact rank_moveHandler (H := .ended r) (P := (s.producers n.tid).pc) h hT hen (by simp)
      (Function.update_eq_self ..).symm rfl rfl rfl rfl (by simp [HandlerPc.rank])
  | handlerLock n i r =>
    exact rank_moveHandler (H := .locked r) (P := (s.producers n.tid).pc) h hT hen.1 (by simp)
      (Function.update_eq_self ..).symm rfl rfl rfl rfl (by simp [HandlerPc.rank])
  | handlerComplete n i r =>
    refine rank_moveHandler (H := .signalled r) h hT hen (by simp) rfl rfl rfl rfl rfl ?_
    simp only [HandlerPc.rank]
    split
    · rename_i hsleep
      have hpc : (s.producers n.tid).pc = .asleep := hsleep.1
      simp [hpc, ProducerPc.rank]
    · exact Nat.add_lt_add_left (by decide) _
  | handlerUnlock n i r =>
    exact rank_moveHandler (H := .exited r) (P := (s.producers n.tid).pc) h hT hen (by simp)
      (Function.update_eq_self ..).symm rfl rfl rfl rfl (by simp [HandlerPc.rank])

end Step

-- ---------------------------------------------------------------------------
-- The rank of a state
-- ---------------------------------------------------------------------------

/-- Work takes nobody into `rant_callback`. -/
theorem State.Covers.next {s : State} {T : Finset Nat} {a : Action} (hT : s.Covers T)
    (hw : a.isWork = true) (hen : Enabled s a) : (next s a).Covers T := by
  intro t hin
  have hcall : a ≠ .call t := by
    rintro rfl
    cases hw
  exact hT t (producer_next hen hcall hin).1

/-- Finitely many producers are inside `rant_callback`: each step takes one in
at most. -/
theorem covers_exec {as : List Action} {s : State} (h : Lts.Exec step Lts.Any init as s) :
    ∃ T, s.Covers T := by
  refine h.invariant (I := fun s => ∃ T, s.Covers T) ?_ ⟨∅, fun t hin => absurd rfl hin⟩
  rintro s a s' ⟨T, hT⟩ - hs
  obtain ⟨hen, rfl⟩ := step_eq_some.mp hs
  by_cases hcall : ∃ t, a = .call t
  · obtain ⟨t, rfl⟩ := hcall
    refine ⟨insert t T, fun u hin => ?_⟩
    by_cases hu : u = t
    · exact hu ▸ Finset.mem_insert_self _ _
    · have hne : Action.call t ≠ .call u := fun e => hu (Action.call.inj e).symm
      exact Finset.mem_insert_of_mem (hT u (producer_next hen hne hin).1)
  · exact ⟨T, fun u hin => hT u (producer_next hen (fun e => hcall ⟨u, e⟩) hin).1⟩

/-- The set of the producers inside `rant_callback`, which exists because it
is finite. -/
theorem inside_exec {as : List Action} {s : State} (h : Lts.Exec step Lts.Any init as s) :
    ∃ T : Finset Nat, ∀ t, t ∈ T ↔ (s.producers t).pc ≠ .outside := by
  obtain ⟨T, hT⟩ := covers_exec h
  refine ⟨T.filter fun t => (s.producers t).pc ≠ .outside, fun t => ?_⟩
  rw [Finset.mem_filter]
  exact ⟨And.right, fun hin => ⟨hT t hin, hin⟩⟩

theorem ProducerPc.rank_le (pc : ProducerPc) : pc.rank ≤ 25 := by
  cases pc <;> decide

/-- A producer that has pushed has at most the signal, one wait and the return
before it. -/
theorem ProducerPc.rank_le_of_submitted {pc : ProducerPc} (h : pc.submitted = true) :
    pc.rank ≤ 10 := by
  cases pc <;> first | decide | cases h

theorem HandlerPc.rank_le (pc : HandlerPc) : pc.rank ≤ 7 := by
  cases pc <;> simp [HandlerPc.rank]

theorem Place.rank_le (p : Place) : p.rank ≤ 13 := by
  cases p with
  | handed pc => exact pc.rank_le.trans (by decide)
  | _ => decide

/-- A call in progress has at most twenty-five steps before it. -/
theorem weight_le {s : State} (h : Inv s) (t : Nat) : s.weight t ≤ 25 := by
  obtain ⟨p, hAt, hFits⟩ := h.node (s.current t)
  unfold State.weight
  rw [hAt.nodeRank]
  by_cases hp : p = .nowhere
  · subst hp
    exact (s.producers t).pc.rank_le
  · have hpc := ProducerPc.rank_le_of_submitted (hFits.submitted hp rfl)
    exact Nat.add_le_add (hpc.trans (by decide : 10 ≤ 12)) p.rank_le

/-- The dispatcher and the unblocking function have at most twenty-one. -/
theorem controlRank_le (s : State) : s.controlRank ≤ 21 := by
  have hd : s.dispatcher.rank s.waiting.abort ≤ 8 := by
    cases s.dispatcher <;> cases s.waiting.abort <;> decide
  have hu : s.unblocker.rank ≤ 13 := by cases s.unblocker <;> decide
  unfold State.controlRank
  omega

/-- So the work that is there when it starts is bounded by the number of calls
in progress. -/
theorem rank_le {s : State} (h : Inv s) (T : Finset Nat) : s.rank T ≤ 25 * T.card + 21 := by
  have hsum : ∑ t ∈ T, s.weight t ≤ T.card * 25 :=
    Finset.sum_le_card_nsmul T _ 25 fun t _ => weight_le h t
  have hctl := controlRank_le s
  unfold State.rank
  omega

-- ---------------------------------------------------------------------------
-- No work left
-- ---------------------------------------------------------------------------

section Stuck

variable {s : State}

/-- Without work nobody holds `rant_callback_mutex`: its holder could go on. -/
theorem Stuck.queueMutex (hs : Stuck s) (h : Inv s) : s.queueMutex = none := by
  by_contra hm
  obtain ⟨holder, hh⟩ := Option.ne_none_iff_exists'.mp hm
  cases holder with
  | producer t =>
    rcases (h.producerLock t).mp hh with hpc | hpc
    · exact hs (.push t) rfl hpc
    · exact hs (.unlockQueue t) rfl hpc
  | dispatcher =>
    rcases h.dispatcherLock.mp hh with hpc | hpc
    · exact hs .dispatcherTest rfl hpc
    · exact hs .dispatcherUnlock rfl hpc
  | unblocker =>
    rcases h.unblockerLock.mp hh with hpc | hpc | hpc
    · exact hs .unblockerAbort rfl hpc
    · exact hs .unblockerSignal rfl hpc
    · exact hs .unblockerUnlock rfl hpc

/-- Without work the dispatcher sleeps, or it has exited. -/
theorem Stuck.dispatcher (hs : Stuck s) (h : Inv s) :
    s.dispatcher = .asleep ∨ s.dispatcher = .exited := by
  have hm := hs.queueMutex h
  cases hpc : s.dispatcher with
  | loopTest => exact absurd hpc (hs .dispatcherLoop rfl)
  | inCall => exact absurd ⟨hpc, hm⟩ (hs .dispatcherLock rfl)
  | testing => exact absurd hpc (hs .dispatcherTest rfl)
  | asleep => exact .inl rfl
  | woken => exact absurd ⟨hpc, hm⟩ (hs .dispatcherRelock rfl)
  | leaving => exact absurd hpc (hs .dispatcherUnlock rfl)
  | unlocked => exact absurd hpc (hs .dispatcherReturn rfl)
  | back => exact absurd hpc (hs .dispatcherSpawn rfl)
  | exited => exact .inr rfl

/-- Every handler thread is done: it waits for a node's mutex only while the
owner holds it, and the owner can go on. -/
theorem Stuck.handler (hs : Stuck s) (h : Inv s) {n : NodePtr} {i : Nat} {pc : HandlerPc}
    (hi : HandlerAt s n i pc) : ∃ r, pc = .exited r := by
  cases pc with
  | created => exact absurd hi (hs (.handlerRun n i) rfl)
  | running => exact absurd hi (hs (.handlerEnd n i .raised) rfl)
  | ended r =>
    obtain ⟨-, -, hcalls, hawait, hhandled, hmutex⟩ := (h.node n).handed hi
    cases hpc : (s.producers n.tid).pc with
    | testing => exact absurd hpc (hs (.testHandled n.tid) rfl)
    | handledSeen => exact absurd hpc (hs (.unlockNode n.tid) rfl)
    | _ =>
      have hfree : (s.nodes n).mutex = none := by rw [hmutex, hpc]; rfl
      exact absurd ⟨hi, hfree⟩ (hs (.handlerLock n i r) rfl)
  | locked r => exact absurd hi (hs (.handlerComplete n i r) rfl)
  | signalled r => exact absurd hi (hs (.handlerUnlock n i r) rfl)
  | exited r => exact ⟨r, rfl⟩

/-- The owner of a node wants its mutex: it is free, for the handler that
holds it is done. -/
theorem Stuck.nodeMutex (hs : Stuck s) (h : Inv s) {t : Nat}
    (hpc : (s.producers t).pc = .signalled ∨ (s.producers t).pc = .woken) :
    (s.nodes (s.current t)).mutex = none := by
  have hhold : (s.producers t).pc.hold = none := by
    rcases hpc with hpc | hpc <;> rw [hpc] <;> rfl
  have hsub : (s.producers t).pc.submitted = true := by
    rcases hpc with hpc | hpc <;> rw [hpc] <;> rfl
  obtain ⟨p, hAt, hFits⟩ := h.node (s.current t)
  cases p with
  | nowhere => exact absurd (hFits.lt_of_nowhere hsub) (lt_irrefl _)
  | queued | waiting => exact hFits.2.2.2.trans hhold
  | handed hp =>
    obtain ⟨r, rfl⟩ := hs.handler h hAt.handlerAt
    rcases hFits with hlt | ⟨-, -, -, -, -, hmutex⟩
    · exact absurd hlt (lt_irrefl _)
    · exact hmutex.trans hhold

/-- A producer that sleeps has its callback on the queue, and nobody will take
it off. The handler of a callback that was handed out would have completed it
and signalled; and a sleeping dispatcher over a queue that is not empty would
have a signal on its way. -/
theorem Stuck.asleep (hs : Stuck s) (h : Inv s) {t : Nat} (hpc : (s.producers t).pc = .asleep) :
    s.dispatcher = .exited ∧ s.current t ∈ s.queue := by
  have hpc' : (s.producers (s.current t).tid).pc = .asleep := hpc
  obtain ⟨p, hAt, hFits⟩ := h.node (s.current t)
  cases p with
  | nowhere => exact absurd (hFits.lt_of_nowhere (by rw [hpc']; rfl)) (lt_irrefl _)
  | queued =>
    have hmem : s.current t ∈ s.queue := by
      apply List.count_pos_iff.mp
      rw [hAt.queue]
      exact Nat.one_pos
    rcases hs.dispatcher h with hd | hd
    · have hcoming := h.signalComing hd _ hmem
      rw [hpc'] at hcoming
      simp at hcoming
    · exact ⟨hd, hmem⟩
  | waiting =>
    have hpend := hAt.pending.mpr rfl
    rcases hs.dispatcher h with hd | hd <;> simp [State.pending, hd] at hpend
  | handed hp =>
    obtain ⟨r, rfl⟩ := hs.handler h hAt.handlerAt
    rcases hFits with hlt | ⟨-, -, hne, -⟩
    · exact absurd hlt (lt_irrefl _)
    · exact absurd hpc' hne

/-- The producers still inside are the ones whose callback nobody will take:
it lies on the queue of a dispatcher that has exited. All the others could go
on, so they are outside. -/
theorem Stuck.producer (hs : Stuck s) (h : Inv s) (t : Nat) :
    (s.producers t).pc ≠ .outside ↔ s.dispatcher = .exited ∧ s.current t ∈ s.queue := by
  constructor
  · intro hin
    cases hpc : (s.producers t).pc with
    | outside => exact absurd hpc hin
    | entered => exact absurd ⟨hpc, hs.queueMutex h⟩ (hs (.lockQueue t) rfl)
    | queueLocked => exact absurd hpc (hs (.push t) rfl)
    | pushed => exact absurd hpc (hs (.unlockQueue t) rfl)
    | unlocked => exact absurd hpc (hs (.signalQueue t) rfl)
    | signalled =>
      exact absurd ⟨hpc, hs.nodeMutex h (.inl hpc)⟩ (hs (.lockNode t) rfl)
    | testing => exact absurd hpc (hs (.testHandled t) rfl)
    | asleep => exact hs.asleep h hpc
    | woken => exact absurd ⟨hpc, hs.nodeMutex h (.inr hpc)⟩ (hs (.relockNode t) rfl)
    | handledSeen => exact absurd hpc (hs (.unlockNode t) rfl)
    | cleanup => exact absurd hpc (hs (.ret t) rfl)
  · rintro ⟨-, hmem⟩
    exact ((h.node _).inside_of_queued hmem).2

end Stuck

-- ---------------------------------------------------------------------------
-- The run of the work
-- ---------------------------------------------------------------------------

/-- Moving a producer inside its call leaves everybody outside where they are. -/
theorem setProducer_outside {s : State} {t u : Nat} {P : ProducerPc} (hpc : P ≠ .outside)
    (hout : ((s.setProducer t P).producers u).pc = .outside) :
    (s.producers u).pc = .outside ∧
      ((s.setProducer t P).producers u).calls = (s.producers u).calls := by
  by_cases hu : u = t
  · subst hu
    rw [producers_setProducer] at hout
    exact absurd hout hpc
  · rw [producers_setProducer_ne hu] at hout ⊢
    exact ⟨hout, rfl⟩

theorem outside_of_signalled {c : Prop} [Decidable c] {pc : ProducerPc}
    (h : (if c then .woken else pc) = ProducerPc.outside) : pc = .outside := by
  split at h
  · cases h
  · exact h

/-- A step of work takes a producer out of its call by returning only, which
is one more call behind it; one that is outside stays there, as a new call is
no work. -/
theorem producer_done {s : State} {a : Action} {u : Nat} (hen : Enabled s a)
    (hw : a.isWork = true) (hout : ((next s a).producers u).pc = .outside) :
    (s.producers u).pc = .outside ∧ ((next s a).producers u).calls = (s.producers u).calls ∨
      (s.producers u).pc ≠ .outside ∧
        ((next s a).producers u).calls = (s.producers u).calls + 1 := by
  cases a with
  | call t | wakeSpuriously t | dispatcherWakeSpuriously | unblockerCall => cases hw
  | lockQueue t | push t | unlockQueue t | signalQueue t | lockNode t | relockNode t
  | unlockNode t => exact .inl (setProducer_outside (t := t) (by simp) hout)
  | testHandled t =>
    rw [next] at hout ⊢
    by_cases hh : (s.nodes (s.current t)).handled = false
    · rw [if_pos hh] at hout ⊢
      exact .inl (setProducer_outside (t := t) (P := .asleep) (by simp) hout)
    · rw [if_neg hh] at hout ⊢
      exact .inl (setProducer_outside (t := t) (P := .handledSeen) (by simp) hout)
  | ret t =>
    by_cases hu : u = t
    · subst hu
      have hpc : (s.producers u).pc = .cleanup := hen
      exact .inr ⟨by simp [hpc], by simp [next]⟩
    · simp only [next, Function.update_of_ne hu] at hout ⊢
      exact .inl ⟨hout, trivial⟩
  | handlerComplete n i r =>
    refine .inl ?_
    by_cases hu : u = n.tid
    · subst hu
      simp only [next, State.signalNode, State.setProducer, State.setNode, State.setHandler,
        Function.update_self] at hout ⊢
      exact ⟨outside_of_signalled hout, trivial⟩
    · simp only [next, State.signalNode, State.setProducer, State.setNode, State.setHandler,
        Function.update_of_ne hu] at hout ⊢
      exact ⟨hout, trivial⟩
  | dispatcherTest =>
    rw [next, producers_waitTest] at hout ⊢
    exact .inl ⟨hout, rfl⟩
  | dispatcherSpawn =>
    rw [next, producers_spawn] at hout ⊢
    exact .inl ⟨hout, rfl⟩
  | _ => exact .inl ⟨hout, rfl⟩

/-- What work has made of the call producer `t` was in at `s`. -/
def Advanced (s u : State) (t : Nat) : Prop :=
  ((u.producers t).pc ≠ .outside →
    (s.producers t).pc ≠ .outside ∧ (u.producers t).calls = (s.producers t).calls) ∧
  ((u.producers t).pc = .outside → (u.producers t).calls =
    (s.producers t).calls + if (s.producers t).pc = .outside then 0 else 1)

/-- Work goes on with the call that was in progress, or leaves the producer
where its return has brought it. -/
theorem Advanced.next {s u : State} {a : Action} {t : Nat} (h : Advanced s u t)
    (hen : Enabled u a) (hw : a.isWork = true) : Advanced s (next u a) t := by
  have hcall : a ≠ .call t := by
    rintro rfl
    cases hw
  constructor
  · intro hin
    obtain ⟨hin', hcalls⟩ := producer_next hen hcall hin
    obtain ⟨hs, hc⟩ := h.1 hin'
    exact ⟨hs, hcalls.trans hc⟩
  · intro hout
    rcases producer_done hen hw hout with ⟨hout', hcalls⟩ | ⟨hin', hcalls⟩
    · exact hcalls.trans (h.2 hout')
    · obtain ⟨hs, hc⟩ := h.1 hin'
      rw [if_neg hs, hcalls, hc]

/-- Where the work that was there at `s` has come to an end. Every handler is
done; the producers still inside `rant_callback` are those whose callback is
on the queue of a dispatcher that has exited; all others have returned from
the call they were in. -/
structure Settled (s u : State) : Prop where
  dispatcher : u.dispatcher = .asleep ∨ u.dispatcher = .exited
  handlers : ∀ n i pc, HandlerAt u n i pc → ∃ r, pc = .exited r
  left : ∀ t, (u.producers t).pc ≠ .outside ↔ u.dispatcher = .exited ∧ u.current t ∈ u.queue
  returned : ∀ t, (u.producers t).pc = .outside → (u.producers t).calls =
    (s.producers t).calls + if (s.producers t).pc = .outside then 0 else 1

/-- What holds in every state that work leads to from `s`. -/
structure Working (T : Finset Nat) (s u : State) : Prop where
  inv : Inv u
  covers : u.Covers T
  advanced : ∀ t, Advanced s u t

/-- **Step.** Each step of work keeps the invariant and the cover, and carries
on the calls that were in progress. -/
theorem Working.next {T : Finset Nat} {s u u' : State} {a : Action} (h : Working T s u)
    (hw : Works u a) (hs : step u a = some u') : Working T s u' := by
  obtain ⟨hen, hnext⟩ := step_eq_some.mp hs
  have hinv := inv_step h.inv hw.2 hs
  subst hnext
  exact ⟨hinv, h.covers.next hw.1 hen, fun t => (h.advanced t).next hen hw.1⟩

/-- Where the work starts, every call is where it was. -/
theorem working_refl {T : Finset Nat} {s : State} (h : Inv s)
    (hT : ∀ t, t ∈ T ↔ (s.producers t).pc ≠ .outside) : Working T s s := by
  refine ⟨h, fun t => (hT t).mpr, fun t => ⟨fun hin => ⟨hin, rfl⟩, fun hout => ?_⟩⟩
  rw [if_pos hout, Nat.add_zero]

/-- Where the work has come to its end, the calls that have not returned wait
for a dispatcher that has exited. -/
theorem Working.settled {T : Finset Nat} {s u : State} (h : Working T s u) (hstuck : Stuck u) :
    Settled s u :=
  ⟨hstuck.dispatcher h.inv, fun _ _ _ => hstuck.handler h.inv, hstuck.producer h.inv,
    fun t => (h.advanced t).2⟩

/-- **The protocol runs out of work.** From every state of a run without a
stale abort, whatever is scheduled: there are at most twenty-five steps of
work for each call in progress and twenty-one more, and when none is left the
callbacks are settled. -/
theorem runs_out_of_work {as : List Action} {s : State}
    (h : Lts.Exec step (fun s a => ¬ StaleAbort s a) init as s) :
    ∃ T : Finset Nat, (∀ t, t ∈ T ↔ (s.producers t).pc ≠ .outside) ∧
      ∀ bs u, Lts.Exec step Works s bs u →
        bs.length ≤ 25 * T.card + 21 ∧ (Stuck u → Settled s u) := by
  obtain ⟨T, hT⟩ := inside_exec (h.mono fun _ _ _ => trivial)
  have h0 : Working T s s := working_refl (inv_exec h) hT
  refine ⟨T, hT, fun bs u hrun => ⟨?_, fun hstuck => ?_⟩⟩
  · have hlen := hrun.length_add_le (r := State.rank T)
      (fun _ _ _ hI hg hs => Working.next (T := T) (s := s) hI hg hs)
      (fun _ _ _ hI hg hs => by
        obtain ⟨hen, rfl⟩ := step_eq_some.mp hs
        exact rank_lt hI.inv hI.covers hg.1 hen) h0
    have hle := rank_le h0.inv T
    omega
  · have hu := hrun.invariant (fun _ _ _ hI hg hs => Working.next (T := T) hI hg hs) h0
    exact hu.settled hstuck

/-- One call is in progress: the dispatcher sleeps, and the producer has yet
to signal. -/
theorem runs_out_of_work_pushWhileAsleep :
    ∃ s, Lts.runIf step (fun s a => !decide (StaleAbort s a)) init pushWhileAsleep = some s ∧
      ∃ T : Finset Nat, (∀ t, t ∈ T ↔ (s.producers t).pc ≠ .outside) ∧
        ∀ bs u, Lts.Exec step Works s bs u →
          bs.length ≤ 25 * T.card + 21 ∧ (Stuck u → Settled s u) := by
  have hrun :
      (Lts.runIf step (fun s a => !decide (StaleAbort s a)) init pushWhileAsleep).isSome := by
    decide +kernel
  obtain ⟨s, hs⟩ := Option.isSome_iff_exists.mp hrun
  exact ⟨s, hs, runs_out_of_work (Lts.exec_of_runIf (fun s a h => by simpa using h) hs)⟩

end AntWireless.Callbacks
