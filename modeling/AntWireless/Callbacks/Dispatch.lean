import AntWireless.Callbacks.Invariant

/-!
# AntWireless — exactly-once dispatch

What the dispatcher owes the producers: a node is handed to `handle_callback` at
most once, and nobody touches it after its `rant_callback` has returned. It holds
in every run in which the abort flag is not raised over a stale
`waiting.callback`; raising it there always leads to a second dispatch.

* `exactly_once_dispatch` — runs without a stale abort keep `DispatchOk`.
* `staleRun_dispatches_twice` — the shortest run that breaks it.
* `staleAbort_dispatches_twice` — every stale abort can be continued to a
  second dispatch, so the condition cannot be weakened.
-/

namespace AntWireless.Callbacks

/-- The dispatch contract: every node has at most one handler thread, an
action never touches a node whose owner has returned, and where the abort flag
is about to end the wait, `waiting.callback` is `NULL`. -/
structure DispatchOk (s : State) : Prop where
  once : ∀ n, (s.handlers n).length ≤ 1
  alive : ∀ a n, Enabled s a → n ∈ derefs s a → ¬ Returned s n
  abortNull : s.dispatcher = .testing → s.waiting.abort = true → s.waiting.callback = none

instance (s : State) (a : Action) : Decidable (StaleAbort s a) :=
  inferInstanceAs (Decidable (_ ∧ _ ∧ _))

-- ---------------------------------------------------------------------------
-- The contract follows from the invariant
-- ---------------------------------------------------------------------------

/-- A node's threads are those of its place: one after the spawn, and none before. -/
theorem NodeOk.handlers_le_one {s : State} {n : NodePtr} (h : NodeOk s n) :
    (s.handlers n).length ≤ 1 := by
  obtain ⟨p, hAt, -⟩ := h
  rw [hAt.handlers]
  cases p <;> simp [Place.handlers]

/-- The owner of a queued node is in the call that pushed it. -/
theorem NodeOk.calls_of_queued {s : State} {n : NodePtr} (h : NodeOk s n) (hq : n ∈ s.queue) :
    (s.producers n.tid).calls = n.call := by
  obtain ⟨p, hAt, hFits⟩ := h
  have hcount := List.count_pos_iff.mpr hq
  obtain rfl : p = .queued := by
    by_contra hne
    rw [hAt.queue, if_neg hne] at hcount
    exact absurd hcount (lt_irrefl 0)
  exact hFits.1

/-- The owner of a handler thread that has not left its node is still in the call. -/
theorem NodeOk.calls_of_handler {s : State} {n : NodePtr} {i : Nat} {pc : HandlerPc}
    (h : NodeOk s n) (hi : HandlerAt s n i pc) (hpc : ∀ r, pc ≠ .exited r) :
    (s.producers n.tid).calls = n.call := by
  obtain ⟨-, -, hFits⟩ := h.handed hi
  cases pc with
  | exited r => exact absurd rfl (hpc r)
  | _ => exact hFits.1

/-- The contract is read off the places: a node that is queued, pending or
with a handler that has not left it belongs to a call that has not returned.
Everything an action touches is such a node, or the node of the thread's own
call. -/
theorem dispatchOk_of_inv {s : State} (h : Inv s) : DispatchOk s where
  once n := (h.node n).handlers_le_one
  abortNull hd := h.abortNull (Or.inr hd)
  alive a n hen hn := by
    have hlive : (s.producers n.tid).calls = n.call → ¬ Returned s n := by
      intro he
      rw [Returned, he]
      exact lt_irrefl _
    apply hlive
    cases a with
    | call t | push t | lockNode t | testHandled t | wakeSpuriously t | relockNode t
    | unlockNode t | ret t =>
      rw [derefs, List.mem_singleton] at hn
      rw [hn]
      rfl
    | dispatcherTest =>
      rw [derefs] at hn
      split at hn
      · exact (h.node n).calls_of_queued (List.mem_of_mem_head? (Option.mem_toList.mp hn))
      · cases hn
    | handlerRun m i | handlerEnd m i r | handlerComplete m i r | handlerUnlock m i r =>
      rw [derefs, List.mem_singleton] at hn
      subst hn
      exact (h.node n).calls_of_handler hen (by simp)
    | handlerLock m i r =>
      rw [derefs, List.mem_singleton] at hn
      subst hn
      exact (h.node n).calls_of_handler hen.1 (by simp)
    | _ => cases hn

/-- **Exactly-once dispatch.** A run in which the abort flag is never raised
over a stale `waiting.callback` keeps the dispatch contract in every state it
reaches: no node is handed to two threads, and no thread touches one whose
call has returned. -/
theorem exactly_once_dispatch {as : List Action} {s : State}
    (h : Lts.Exec step (fun s a => ¬ StaleAbort s a) init as s) : DispatchOk s :=
  dispatchOk_of_inv (inv_exec h)

-- ---------------------------------------------------------------------------
-- A stale abort breaks the contract
-- ---------------------------------------------------------------------------

/-- One producer's call is dispatched, handled and returned; the dispatcher
enters the next wait. -/
def oneCall : List Action :=
  [.call 0, .lockQueue 0, .push 0, .unlockQueue 0, .signalQueue 0,
   .dispatcherLoop, .dispatcherLock, .dispatcherTest, .dispatcherUnlock, .dispatcherReturn,
   .dispatcherSpawn, .dispatcherLoop,
   .handlerRun ⟨0, 0⟩ 0, .handlerEnd ⟨0, 0⟩ 0 (.returned .true),
   .handlerLock ⟨0, 0⟩ 0 (.returned .true), .handlerComplete ⟨0, 0⟩ 0 (.returned .true),
   .handlerUnlock ⟨0, 0⟩ 0 (.returned .true),
   .lockNode 0, .testHandled 0, .unlockNode 0, .ret 0]

/-- The abort flag is raised, and the dispatcher goes once around. -/
def abortRound : List Action :=
  [.unblockerAbort, .unblockerSignal, .unblockerUnlock,
   .dispatcherLock, .dispatcherTest, .dispatcherUnlock, .dispatcherReturn, .dispatcherSpawn]

/-- The abort arrives before the dispatcher has locked the queue again. -/
def staleRun : List Action := oneCall ++ [.unblockerCall, .unblockerLock] ++ abortRound

/-- A full call, from `rant_callback` to its return, with the dispatcher on
its way into the next wait. -/
theorem exactly_once_dispatch_oneCall :
    ∃ s, Lts.runIf step (fun s a => !decide (StaleAbort s a)) init oneCall = some s ∧
      DispatchOk s := by
  have hrun : (Lts.runIf step (fun s a => !decide (StaleAbort s a)) init oneCall).isSome := by
    decide +kernel
  obtain ⟨s, hs⟩ := Option.isSome_iff_exists.mp hrun
  exact ⟨s, hs, exactly_once_dispatch (Lts.exec_of_runIf (fun s a h => by simpa using h) hs)⟩

/-- **The double dispatch.** After `staleRun` the node of a call that has
returned has a second handler thread, which is about to read it. The `while`
condition has stopped at the flag, so `waiting.callback` still points to the
callback of the round before. -/
theorem staleRun_dispatches_twice : ∃ s, Lts.Exec step Lts.Any init staleRun s ∧
    (s.handlers ⟨0, 0⟩).length = 2 ∧ Returned s ⟨0, 0⟩ ∧
    Enabled s (.handlerRun ⟨0, 0⟩ 1) ∧ ⟨0, 0⟩ ∈ derefs s (.handlerRun ⟨0, 0⟩ 1) ∧
    ¬ DispatchOk s := by
  have hrun : (Lts.runIf step (fun _ _ => true) init staleRun).map (fun s =>
      ((s.handlers ⟨0, 0⟩).length, (s.producers 0).calls, (s.handlers ⟨0, 0⟩)[1]?)) =
      some (2, 1, some .created) := by
    decide +kernel
  obtain ⟨s, hexec, hval⟩ := Lts.exec_of_computed hrun
  simp only [Prod.mk.injEq] at hval
  obtain ⟨hlen, hcalls, hcreated⟩ := hval
  refine ⟨s, hexec, hlen, ?_, hcreated, ?_, ?_⟩
  · show 0 < (s.producers 0).calls
    omega
  · exact List.mem_singleton.mpr rfl
  · intro hok
    have := hok.once ⟨0, 0⟩
    omega

-- ---------------------------------------------------------------------------
-- Every stale abort does
-- ---------------------------------------------------------------------------

/-- Outside the stretch from pop to spawn, the node `waiting.callback` points
to has been handed out before. -/
def StaleHanded (s : State) : Prop :=
  s.pending = none → ∀ n, s.waiting.callback = some n → s.handlers n ≠ []

/-- A handler's move keeps every node's threads. -/
theorem StaleHanded.setHandler {s s' : State} {m : NodePtr} {i : Nat} {pc : HandlerPc}
    (h : StaleHanded s) (hp : s'.pending = s.pending) (hw : s'.waiting = s.waiting)
    (hh : s'.handlers = (s.setHandler m i pc).handlers) : StaleHanded s' := by
  intro hnone n hn
  have hne := h (hp ▸ hnone) n (hw ▸ hn)
  rw [hh, State.setHandler]
  by_cases hm : n = m
  · subst hm
    simpa using hne
  · simpa [Function.update_of_ne hm] using hne

/-- **Step.** The pointer in `waiting` is written by the pop, and the stretch
that starts there ends with the spawn, which gives the node a thread. Nothing
takes a thread off a node. -/
theorem staleHanded_step {s s' : State} {a : Action} (h : StaleHanded s)
    (hs : step s a = some s') : StaleHanded s' := by
  obtain ⟨hen, rfl⟩ := step_eq_some.mp hs
  cases a with
  | dispatcherTest =>
    rw [next, State.waitTest]
    split
    · split
      · intro _ n hn
        cases hn
      · intro hnone
        cases hnone
    · -- the flag ends the wait: whatever `waiting.callback` holds is pending now
      intro hnone n hn
      rw [State.pending] at hnone
      exact absurd (hnone.symm.trans hn) (by simp)
  | dispatcherSpawn =>
    rw [next, State.spawn]
    split
    · rename_i m hm
      intro _ n hn
      obtain rfl := Option.some.inj (hm.symm.trans hn)
      simp
    · rename_i hm
      intro _ n hn
      exact absurd (hm.symm.trans hn) (by simp)
  | testHandled t =>
    rw [next]
    split <;> exact h
  | signalQueue t | unblockerSignal =>
    intro hnone
    rw [next] at hnone
    exact h ((pending_signalQueue _).symm.trans hnone)
  | dispatcherLoop | dispatcherWakeSpuriously =>
    have hd := hen
    rw [Enabled] at hd
    exact fun _ => h (by rw [State.pending, hd])
  | dispatcherLock | dispatcherRelock =>
    exact fun _ => h (by rw [State.pending, hen.1])
  | dispatcherUnlock | dispatcherReturn =>
    have hd := hen
    rw [Enabled] at hd
    intro hnone
    exact h (by rw [State.pending, hd]; exact hnone)
  | handlerRun m i | handlerEnd m i r | handlerLock m i r | handlerComplete m i r
  | handlerUnlock m i r => exact h.setHandler rfl rfl rfl
  | _ => exact h

/-- **Run.** In every state, stale aborts or not, a pointer left over in
`waiting` is to a node that has been handed out. -/
theorem staleHanded_exec {as : List Action} {s : State} (h : Lts.Exec step Lts.Any init as s) :
    StaleHanded s :=
  h.invariant (fun _ _ _ hI _ hs => staleHanded_step hI hs) (fun _ _ hn => by cases hn)

/-- **No weaker condition will do.** Wherever a run without a stale abort
raises one, the next round of the dispatcher hands some node out a second
time: the one that `waiting` still points to. -/
theorem staleAbort_dispatches_twice {as : List Action} {s : State}
    (h : Lts.Exec step (fun s a => ¬ StaleAbort s a) init as s)
    (hen : Enabled s .unblockerAbort) (hst : StaleAbort s .unblockerAbort) :
    ∃ t n, Lts.Exec step Lts.Any s abortRound t ∧ 2 ≤ (t.handlers n).length := by
  obtain ⟨-, hd, hne⟩ := hst
  obtain ⟨n, hn⟩ := Option.ne_none_iff_exists'.mp hne
  have hpos : s.handlers n ≠ [] :=
    staleHanded_exec (h.mono fun _ _ _ => trivial) (by rw [State.pending, hd]) n hn
  have hrun : Lts.runIf step (fun _ _ => true) s abortRound = some
      { s with
        queueMutex := none, waiting := ⟨some n, true⟩, unblocker := .idle
        dispatcher := .loopTest
        handlers := Function.update s.handlers n (s.handlers n ++ [.created]) } := by
    have hu : s.unblocker = .locked := hen
    simp [Lts.runIf, abortRound, step, Enabled, next, State.signalQueue, State.waitTest,
      State.spawn, hu, hd, hn]
  refine ⟨_, n, Lts.exec_of_runIf (fun _ _ _ => trivial) hrun, ?_⟩
  have := List.length_pos_iff.mpr hpos
  simp
  omega

end AntWireless.Callbacks
