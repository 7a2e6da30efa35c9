import AntWireless.Callbacks.Quiescence

/-!
# AntWireless — what a shutdown leaves behind

Ruby stops the dispatcher through `stop_waiting_for_callback_signal`. Nothing empties
the queue and nobody else takes callbacks off it, so the moment the abort flag is set
decides the fate of every call.

* `Taken` — the dispatcher has taken the callback off the queue.
* `taken_exec` — after the flag is set nothing more is taken.
* `shutdown_outcome` — the calls whose callback was taken return; all others, and all
  later ones, stay inside `rant_callback` for good.
-/

namespace AntWireless.Callbacks

/-- The dispatcher has the callback of node `n`, or a handler thread has or had it. -/
def Taken (s : State) (n : NodePtr) : Prop := s.pending = some n ∨ s.handlers n ≠ []

-- ---------------------------------------------------------------------------
-- Where a callback is taken
-- ---------------------------------------------------------------------------

/-- What is pending changes with the pop and with the spawn only. -/
theorem pending_next {s : State} {a : Action} (hen : Enabled s a) (ht : a ≠ .dispatcherTest)
    (hsp : a ≠ .dispatcherSpawn) : (next s a).pending = s.pending := by
  cases a with
  | dispatcherTest => exact absurd rfl ht
  | dispatcherSpawn => exact absurd rfl hsp
  | testHandled t =>
    rw [next]
    split <;> rfl
  | signalQueue t | unblockerSignal => exact pending_signalQueue _
  | dispatcherLoop =>
    have hpc : s.dispatcher = .loopTest := hen
    by_cases hab : s.waiting.abort = false <;> simp [next, State.pending, hpc, hab]
  | dispatcherLock | dispatcherRelock => simp [next, State.pending, hen.1]
  | dispatcherWakeSpuriously | dispatcherUnlock | dispatcherReturn =>
    have hpc := hen
    rw [Enabled] at hpc
    simp [next, State.pending, hpc]
  | _ => rfl

theorem handlers_waitTest (s : State) : s.waitTest.handlers = s.handlers := by
  unfold State.waitTest
  split
  · split <;> rfl
  · rfl

theorem handlers_setHandler_eq_nil {s : State} {n m : NodePtr} {i : Nat} {pc : HandlerPc} :
    (s.setHandler m i pc).handlers n = [] ↔ s.handlers n = [] := by
  by_cases hn : n = m
  · subst hn
    simp [State.setHandler]
  · simp [State.setHandler, Function.update_of_ne hn]

/-- Only the dispatcher gives a node its first thread, and no node loses one. -/
theorem handlers_next_eq_nil {s : State} {a : Action} {n : NodePtr} (hsp : a ≠ .dispatcherSpawn) :
    (next s a).handlers n = [] ↔ s.handlers n = [] := by
  cases a with
  | dispatcherSpawn => exact absurd rfl hsp
  | testHandled t =>
    rw [next]
    split <;> exact Iff.rfl
  | dispatcherTest => rw [next, handlers_waitTest]
  | handlerRun m i | handlerEnd m i r | handlerLock m i r | handlerComplete m i r
  | handlerUnlock m i r => exact handlers_setHandler_eq_nil
  | _ => exact Iff.rfl

/-- The spawn hands on what the dispatcher had taken: it takes nothing. -/
theorem taken_spawn {s : State} {n : NodePtr} (hpc : s.dispatcher = .back) :
    Taken (next s .dispatcherSpawn) n ↔ Taken s n := by
  have hpend : s.pending = s.waiting.callback := by rw [State.pending, hpc]
  unfold Taken
  rw [hpend, next, State.spawn]
  cases hcb : s.waiting.callback with
  | none => simp [State.pending]
  | some m =>
    by_cases hn : n = m
    · subst hn
      simp [State.pending]
    · simp [State.pending, Function.update_of_ne hn, Ne.symm hn]

/-- Only the pop takes a callback. What has been taken stays taken. -/
theorem taken_next {s : State} {a : Action} {n : NodePtr} (hen : Enabled s a)
    (ht : a ≠ .dispatcherTest) : Taken (next s a) n ↔ Taken s n := by
  by_cases hsp : a = .dispatcherSpawn
  · subst hsp
    exact taken_spawn hen
  · unfold Taken
    rw [pending_next hen ht hsp, Ne, Ne, handlers_next_eq_nil hsp]

/-- With the abort flag set the `while` condition stops short of the pop:
nothing is taken any more. -/
theorem taken_dispatcherTest {s : State} {n : NodePtr} (h : Inv s)
    (hpc : s.dispatcher = .testing) (hab : s.waiting.abort = true) :
    Taken (next s .dispatcherTest) n ↔ Taken s n := by
  have hnull := h.abortNull (.inr hpc) hab
  unfold Taken
  rw [next, handlers_waitTest]
  simp [State.waitTest, hab, State.pending, hpc, hnull]

/-- Nothing clears the flag. -/
theorem abort_next {s : State} (a : Action) (hab : s.waiting.abort = true) :
    (next s a).waiting.abort = true := by
  cases a with
  | testHandled t =>
    rw [next]
    split <;> exact hab
  | dispatcherTest => simp [next, State.waitTest, hab]
  | dispatcherSpawn =>
    rw [next, State.spawn]
    split <;> exact hab
  | unblockerAbort => rfl
  | _ => exact hab

-- ---------------------------------------------------------------------------
-- Runs after the flag is set
-- ---------------------------------------------------------------------------

/-- The flag is set, and what is taken now was taken at `s`. -/
structure Stopping (s u : State) : Prop where
  inv : Inv u
  abort : u.waiting.abort = true
  taken : ∀ n, Taken u n ↔ Taken s n

/-- A second abort request finds no stale callback: with the flag set, a
dispatcher that has yet to test it has no pointer left over in `waiting`. -/
theorem Stopping.not_staleAbort {s u : State} (h : Stopping s u) (a : Action) :
    ¬ StaleAbort u a := by
  rintro ⟨-, hd, hne⟩
  exact hne (h.inv.abortNull (.inl hd) h.abort)

/-- **Step.** Once the flag is set it stays set, and no callback is taken. -/
theorem Stopping.next {s u u' : State} {a : Action} (h : Stopping s u)
    (hs : step u a = some u') : Stopping s u' := by
  have hinv := inv_step h.inv (h.not_staleAbort a) hs
  obtain ⟨hen, rfl⟩ := step_eq_some.mp hs
  refine ⟨hinv, abort_next a h.abort, fun n => ?_⟩
  by_cases ht : a = .dispatcherTest
  · subst ht
    exact (taken_dispatcherTest h.inv hen h.abort).trans (h.taken n)
  · exact (taken_next hen ht).trans (h.taken n)

/-- **Run.** Whatever is scheduled after the abort, what is taken was taken
before it. -/
theorem taken_exec {s u : State} {bs : List Action} (h : Inv s) (hab : s.waiting.abort = true)
    (hrun : Lts.Exec step Lts.Any s bs u) : Stopping s u :=
  hrun.invariant (I := Stopping s) (fun _ _ _ hI _ hs => hI.next hs) ⟨h, hab, fun _ => Iff.rfl⟩

/-- A call returns after a handler thread has completed its node, so its
callback was taken. -/
theorem NodeOk.taken_of_returned {s : State} {n : NodePtr} (h : NodeOk s n) (hr : Returned s n) :
    Taken s n := by
  obtain ⟨p, hAt, hFits⟩ := h
  cases p with
  | nowhere =>
    rcases hFits with hlt | ⟨hc, -⟩
    · exact absurd hr (Nat.not_lt.mpr hlt.le)
    · exact absurd hr (Nat.not_lt.mpr hc.le)
  | queued => exact absurd hr (Nat.not_lt.mpr hFits.1.le)
  | waiting => exact .inl (hAt.pending.mpr rfl)
  | handed pc =>
    refine .inr ?_
    rw [hAt.handlers]
    exact List.cons_ne_nil _ _

/-- What is on the queue has not been taken: it is in one place only. -/
theorem NodeOk.not_taken_of_queued {s : State} {n : NodePtr} (h : NodeOk s n)
    (hq : n ∈ s.queue) : ¬ Taken s n := by
  obtain ⟨p, hAt, -⟩ := h
  have hcount := List.count_pos_iff.mpr hq
  obtain rfl : p = .queued := by
    by_contra hne
    rw [hAt.queue, if_neg hne] at hcount
    exact absurd hcount (lt_irrefl 0)
  rintro (hp | hh)
  · exact absurd (hAt.pending.mp hp) (by simp)
  · exact hh hAt.handlers

-- ---------------------------------------------------------------------------
-- The dispatcher stops
-- ---------------------------------------------------------------------------

/-- While the flag is set over a sleeping dispatcher, the signal is still to come. -/
def AbortSignalled (s : State) : Prop :=
  s.waiting.abort = true → s.dispatcher = .asleep → s.unblocker = .aborted

/-- **Step.** The unblocking function sets the flag and signals under the same
hold of the mutex, so the dispatcher cannot fall asleep in between; and with
the flag set it does not go to sleep. -/
theorem abortSignalled_step {s s' : State} {a : Action} (h : AbortSignalled s)
    (hs : step s a = some s') : AbortSignalled s' := by
  obtain ⟨hen, rfl⟩ := step_eq_some.mp hs
  have hwoken : ∀ s : State, s.signalQueue.dispatcher ≠ .asleep := by
    intro s hd
    simp only [State.signalQueue] at hd
    split at hd
    · cases hd
    · contradiction
  intro hab hd
  cases a with
  | signalQueue t => exact absurd hd (hwoken _)
  | unblockerSignal => exact absurd hd (hwoken _)
  | testHandled t =>
    rw [next] at hab hd ⊢
    split at hd <;> simp_all [AbortSignalled, State.setProducer, State.setNodeMutex, State.setNode]
  | dispatcherLoop =>
    simp only [next] at hd
    split at hd <;> cases hd
  | dispatcherTest =>
    rw [next, State.waitTest] at hab hd
    split at hab
    · rename_i hfalse
      split at hab <;> exact absurd hab (by simp [hfalse])
    · rename_i htrue
      rw [if_neg htrue] at hd
      cases hd
  | dispatcherSpawn =>
    rw [next, State.spawn] at hd
    split at hd <;> cases hd
  | dispatcherLock | dispatcherRelock | dispatcherWakeSpuriously | dispatcherUnlock
  | dispatcherReturn => cases hd
  | unblockerAbort => rfl
  | unblockerCall | unblockerLock =>
    have := h hab hd
    rw [hen.1] at this
    cases this
  | unblockerUnlock =>
    have := h hab hd
    rw [show s.unblocker = .signalled from hen] at this
    cases this
  | _ => exact h hab hd

/-- **Run.** A dispatcher that sleeps with the flag set is about to be woken. -/
theorem abortSignalled_exec {as : List Action} {s : State}
    (h : Lts.Exec step Lts.Any init as s) : AbortSignalled s :=
  h.invariant (I := AbortSignalled) (fun _ _ _ hI _ hs => abortSignalled_step hI hs)
    fun hab => by cases hab

-- ---------------------------------------------------------------------------
-- Who gets out
-- ---------------------------------------------------------------------------

/-- Where no work is left the signal has been sent, so the dispatcher has left
its wait and, with the flag set, its loop. -/
theorem Settled.exited {s u : State} (h : Settled s u) (hsig : AbortSignalled u)
    (hab : u.waiting.abort = true) (hstuck : Stuck u) : u.dispatcher = .exited := by
  rcases h.dispatcher with hd | hd
  · exact absurd (hsig hab hd) (hstuck .unblockerSignal rfl)
  · exact hd

/-- **The outcome of a shutdown.** From the state in which the abort flag is
set (not over a stale callback): a callback that has not been taken off the
queue is never taken and its `rant_callback` never returns, whatever happens
later; and when no work is left, the dispatcher has exited and the calls that
were in progress are still in progress exactly where the callback had not been
taken. -/
theorem shutdown_outcome {as : List Action} {s : State}
    (h : Lts.Exec step (fun s a => ¬ StaleAbort s a) init as s)
    (hab : s.waiting.abort = true) :
    (∀ bs u, Lts.Exec step Lts.Any s bs u → ∀ n, ¬ Taken s n → ¬ Taken u n ∧ ¬ Returned u n) ∧
    (∀ bs u, Lts.Exec step Works s bs u → Stuck u → u.dispatcher = .exited ∧
      ∀ t, (u.producers t).pc ≠ .outside ↔
        (s.producers t).pc ≠ .outside ∧ ¬ Taken s (s.current t)) := by
  have hstrand : ∀ bs u, Lts.Exec step Lts.Any s bs u → ∀ n, ¬ Taken s n →
      ¬ Taken u n ∧ ¬ Returned u n := by
    intro bs u hrun n hn
    have hu := taken_exec (inv_exec h) hab hrun
    have hnu : ¬ Taken u n := fun hT => hn ((hu.taken n).mp hT)
    exact ⟨hnu, fun hr => hnu ((hu.inv.node n).taken_of_returned hr)⟩
  refine ⟨hstrand, fun bs u hrun hstuck => ?_⟩
  have hany : Lts.Exec step Lts.Any s bs u := hrun.mono fun _ _ _ => trivial
  have hu := taken_exec (inv_exec h) hab hany
  obtain ⟨T, hT⟩ := inside_exec (h.mono fun _ _ _ => trivial)
  have hwork : Working T s u :=
    hrun.invariant (fun _ _ _ hI hg hs => Working.next (T := T) hI hg hs)
      (working_refl (inv_exec h) hT)
  have hset : Settled s u := hwork.settled hstuck
  have hexited : u.dispatcher = .exited :=
    hset.exited (abortSignalled_exec ((h.mono fun _ _ _ => trivial).append hany)) hu.abort hstuck
  refine ⟨hexited, fun t => ⟨fun hin => ?_, ?_⟩⟩
  · obtain ⟨hin', hcalls⟩ := (hwork.advanced t).1 hin
    have hcur : u.current t = s.current t := by rw [State.current, State.current, hcalls]
    have hqueued := ((hset.left t).mp hin).2
    refine ⟨hin', fun htaken => ?_⟩
    rw [← hcur] at htaken
    exact (hu.inv.node _).not_taken_of_queued hqueued ((hu.taken _).mpr htaken)
  · rintro ⟨hin, hnot⟩ hout
    -- a call that is over has been returned from
    have hcalls := (hwork.advanced t).2 hout
    rw [if_neg hin] at hcalls
    refine (hstrand bs u hany _ hnot).2 ?_
    show (s.producers t).calls < (u.producers t).calls
    omega

/-- The dispatcher has taken one callback and is on its way out of the wait;
another is on the queue when the flag is set. -/
def stopWithOneQueued : List Action :=
  [.call 0, .lockQueue 0, .push 0, .unlockQueue 0, .signalQueue 0,
   .dispatcherLoop, .dispatcherLock, .dispatcherTest, .dispatcherUnlock, .unblockerCall,
   .call 1, .lockQueue 1, .push 1, .unlockQueue 1, .unblockerLock, .unblockerAbort]

/-- One callback is taken and one is on the queue when the flag is set. The
first is handled as ever; the call of the second one never returns. -/
theorem shutdown_outcome_stopWithOneQueued :
    ∃ s, Lts.runIf step (fun s a => !decide (StaleAbort s a)) init stopWithOneQueued = some s ∧
      Taken s ⟨0, 0⟩ ∧ ¬ Taken s ⟨1, 0⟩ ∧
      ∀ bs u, Lts.Exec step Lts.Any s bs u → ¬ Returned u ⟨1, 0⟩ := by
  have hrun : (Lts.runIf step (fun s a => !decide (StaleAbort s a)) init stopWithOneQueued).map
      (fun s => (s.waiting.abort, s.pending, s.handlers ⟨1, 0⟩)) =
      some (true, some ⟨0, 0⟩, []) := by
    decide +kernel
  obtain ⟨s, hs, hval⟩ := Option.map_eq_some_iff.mp hrun
  simp only [Prod.mk.injEq] at hval
  obtain ⟨hab, hpend, hnil⟩ := hval
  have hnot : ¬ Taken s ⟨1, 0⟩ := by
    rintro (hp | hh)
    · rw [hpend] at hp
      simp at hp
    · exact hh hnil
  have hexec := Lts.exec_of_runIf (G := fun s a => ¬ StaleAbort s a)
    (fun s a h => by simpa using h) hs
  exact ⟨s, hs, .inl hpend, hnot, fun bs u hu =>
    ((shutdown_outcome hexec hab).1 bs u hu ⟨1, 0⟩ hnot).2⟩

end AntWireless.Callbacks
