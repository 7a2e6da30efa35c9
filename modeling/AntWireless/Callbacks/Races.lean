import AntWireless.Callbacks.Dispatch

/-!
# AntWireless — data races

Which shared data each action reads and writes, and that two threads never stand
before conflicting accesses at the same time. One place depends on Ruby:
`callback_thread` tests `waiting.abort` in its loop without `rant_callback_mutex`,
while `stop_waiting_for_callback_signal` writes the flag with the mutex held.

* `Location`, `accesses` — the shared data of the protocol and who touches it.
* `Race` — two threads about to access one location, one of them to write.
* `race_free` — the flag is the only location that can race, and it does not where
  Ruby lets the unblocking function finish before it returns from
  `rb_thread_call_without_gvl`.
-/

namespace AntWireless.Callbacks

/-- Data that more than one thread touches. The mutexes and conditions are
left out: they are there to be contended. -/
inductive Location
  | queue
  -- `waiting.callback`, `waiting.abort`
  | callback
  | abort
  -- the fields of a `rant_callback_t`
  | link (n : NodePtr)
  | handled (n : NodePtr)
  | rval (n : NodePtr)
  deriving DecidableEq, Repr

/-- The threads of the protocol. -/
inductive ThreadId
  | producer (t : Nat)
  | dispatcher
  | unblocker
  | handler (n : NodePtr) (i : Nat)
  deriving DecidableEq, Repr

/-- Whose step an action is. -/
def Action.thread : Action → ThreadId
  | .call t | .lockQueue t | .push t | .unlockQueue t | .signalQueue t | .lockNode t
  | .testHandled t | .wakeSpuriously t | .relockNode t | .unlockNode t | .ret t => .producer t
  | .dispatcherLoop | .dispatcherLock | .dispatcherTest | .dispatcherWakeSpuriously
  | .dispatcherRelock | .dispatcherUnlock | .dispatcherReturn | .dispatcherSpawn => .dispatcher
  | .unblockerCall | .unblockerLock | .unblockerAbort | .unblockerSignal | .unblockerUnlock =>
    .unblocker
  | .handlerRun n i | .handlerEnd n i _ | .handlerLock n i _ | .handlerComplete n i _
  | .handlerUnlock n i _ => .handler n i

/-- What an action reads (`false`) and writes (`true`). -/
def accesses (s : State) : Action → List (Location × Bool)
  | .call t => [(.handled (s.current t), true)]
  -- `callback->next = rant_callback_queue; rant_callback_queue = callback`
  | .push t => [(.queue, true), (.link (s.current t), true)]
  | .testHandled t => [(.handled (s.current t), false)]
  | .ret t => [(.rval (s.current t), false)]
  | .dispatcherLoop => [(.abort, false)]
  | .dispatcherTest =>
    if s.waiting.abort = false then
      [(.abort, false), (.queue, true), (.callback, true)] ++
        (s.queue.head?.map fun n => (Location.link n, false)).toList
    else [(.abort, false)]
  | .dispatcherSpawn => [(.callback, false)]
  | .unblockerAbort => [(.abort, true)]
  | .handlerComplete n _ _ => [(.handled n, true), (.rval n, true)]
  | _ => []

/-- Two threads are each about to access the location, at least one of them to write. -/
def Race (s : State) (l : Location) (a b : Action) : Prop :=
  Enabled s a ∧ Enabled s b ∧ a.thread ≠ b.thread ∧
    ∃ w w', (l, w) ∈ accesses s a ∧ (l, w') ∈ accesses s b ∧ (w = true ∨ w' = true)

-- ---------------------------------------------------------------------------
-- Who accesses what
-- ---------------------------------------------------------------------------

section Accesses

variable {s : State} {a : Action} {w : Bool} {n : NodePtr}

/-- The test of the `while` loop reads the flag, and, where it does not stop
there, pops. -/
theorem mem_accesses_test {l : Location} (h : (l, w) ∈ accesses s .dispatcherTest) :
    l = .abort ∧ w = false ∨ l = .queue ∨ l = .callback ∨ ∃ n, l = .link n := by
  rw [accesses] at h
  split at h
  · rcases List.mem_append.mp h with hfixed | hlink
    · simp only [List.mem_cons, Prod.mk.injEq, List.not_mem_nil, or_false] at hfixed
      rcases hfixed with ⟨rfl, rfl⟩ | ⟨rfl, -⟩ | ⟨rfl, -⟩
      · exact .inl ⟨rfl, rfl⟩
      · exact .inr (.inl rfl)
      · exact .inr (.inr (.inl rfl))
    · obtain ⟨n, -, hn⟩ := Option.map_eq_some_iff.mp (Option.mem_toList.mp hlink)
      exact .inr (.inr (.inr ⟨n, (congrArg Prod.fst hn).symm⟩))
  · rw [List.mem_singleton, Prod.mk.injEq] at h
    exact .inl h

theorem accesses_queue (h : (.queue, w) ∈ accesses s a) :
    (∃ t, a = .push t) ∨ a = .dispatcherTest := by
  cases a <;> simp_all [accesses]

theorem accesses_link (h : (.link n, w) ∈ accesses s a) :
    (∃ t, a = .push t) ∨ a = .dispatcherTest := by
  cases a <;> simp_all [accesses]

theorem accesses_callback (h : (.callback, w) ∈ accesses s a) : a.thread = .dispatcher := by
  cases a <;> simp_all [accesses, Action.thread]

/-- The flag is written by the unblocking function and read by the two tests
of the dispatcher. -/
theorem accesses_abort (h : (.abort, w) ∈ accesses s a) :
    (a = .unblockerAbort ∧ w = true) ∨
      ((a = .dispatcherLoop ∨ a = .dispatcherTest) ∧ w = false) := by
  cases a with
  | dispatcherTest => simpa using mem_accesses_test h
  | _ => simp_all [accesses]

/-- A node's `handled` is touched by its owner and by the handler that completes it. -/
theorem accesses_handled (h : (.handled n, w) ∈ accesses s a) :
    (∃ t, (a = .call t ∨ a = .testHandled t) ∧ n = s.current t) ∨
      ∃ i r, a = .handlerComplete n i r := by
  cases a with
  | dispatcherTest => simpa using mem_accesses_test h
  | _ => simp_all [accesses]

/-- A node's `rval` is read by its owner's return and written by the handler
that completes it. -/
theorem accesses_rval (h : (.rval n, w) ∈ accesses s a) :
    (∃ t, a = .ret t ∧ n = s.current t) ∨ ∃ i r, a = .handlerComplete n i r := by
  cases a with
  | dispatcherTest => simpa using mem_accesses_test h
  | _ => simp_all [accesses]

end Accesses

-- ---------------------------------------------------------------------------
-- Location by location
-- ---------------------------------------------------------------------------

section Locations

variable {s : State} {a b : Action} {w w' : Bool}

/-- The accesses to the queue and its links are made under
`rant_callback_mutex`, by the thread that holds it. -/
theorem queue_guarded (h : Inv s) (hen : Enabled s a)
    (ha : (∃ t, a = .push t) ∨ a = .dispatcherTest) :
    ∃ q, s.queueMutex = some q ∧ a.thread = match q with
      | .producer t => .producer t
      | .dispatcher => .dispatcher
      | .unblocker => .unblocker := by
  rcases ha with ⟨t, rfl⟩ | rfl
  · exact ⟨.producer t, (h.producerLock t).mpr (.inl hen), rfl⟩
  · exact ⟨.dispatcher, h.dispatcherLock.mpr (.inl hen), rfl⟩

/-- Two threads cannot both hold the mutex. -/
theorem no_race_queue (h : Inv s) (ha : Enabled s a) (hb : Enabled s b)
    (hqa : (∃ t, a = .push t) ∨ a = .dispatcherTest)
    (hqb : (∃ t, b = .push t) ∨ b = .dispatcherTest) : a.thread = b.thread := by
  obtain ⟨q, hq, hta⟩ := queue_guarded h ha hqa
  obtain ⟨q', hq', htb⟩ := queue_guarded h hb hqb
  obtain rfl := Option.some.inj (hq.symm.trans hq')
  exact hta.trans htb.symm

/-- A handler about to complete a node has it alone: its owner waits, and
holds no mutex. -/
theorem owner_of_complete {n : NodePtr} {i : Nat} {r : FnResult} (h : Inv s)
    (hi : HandlerAt s n i (.locked r)) :
    i = 0 ∧ (s.producers n.tid).pc.awaiting = true ∧ (s.producers n.tid).pc ≠ .testing := by
  obtain ⟨hi0, -, -, hawait, htest, -⟩ := (h.node n).handed hi
  exact ⟨hi0, hawait, htest⟩

/-- The owner touches `handled` before its node is submitted or under the
node's mutex, which a completing handler holds. Before the submission there is
no handler; two owners of one node are one thread, and so are two handlers. -/
theorem no_race_handled {n : NodePtr} (h : Inv s) (ha : Enabled s a) (hb : Enabled s b)
    (hla : (.handled n, w) ∈ accesses s a) (hlb : (.handled n, w') ∈ accesses s b) :
    a.thread = b.thread := by
  -- the owner is outside its call, or it is testing the flag
  have howner : ∀ t c, Enabled s c → (c = .call t ∨ c = .testHandled t) →
      c.thread = .producer t ∧
        ((s.producers t).pc.awaiting = false ∨ (s.producers t).pc = .testing) := by
    rintro t c hen (rfl | rfl)
    · refine ⟨rfl, .inl ?_⟩
      rw [show (s.producers t).pc = .outside from hen]
      rfl
    · exact ⟨rfl, .inr hen⟩
  have hmixed : ∀ t c i r, Enabled s c → (c = .call t ∨ c = .testHandled t) →
      n = s.current t → Enabled s (.handlerComplete n i r) → False := by
    rintro t c i r hc hct rfl hi
    obtain ⟨-, hawait, htest⟩ := owner_of_complete h hi
    have hawait' : (s.producers t).pc.awaiting = true := hawait
    rcases (howner t c hc hct).2 with hp | hp
    · rw [hp] at hawait'
      cases hawait'
    · exact htest hp
  rcases accesses_handled hla with ⟨t, hat, hn⟩ | ⟨i, r, rfl⟩ <;>
    rcases accesses_handled hlb with ⟨t', hbt, hn'⟩ | ⟨i', r', rfl⟩
  · obtain rfl : t = t' := congrArg NodePtr.tid (hn.symm.trans hn')
    rw [(howner t a ha hat).1, (howner t b hb hbt).1]
  · exact (hmixed t a i' r' ha hat hn hb).elim
  · exact (hmixed t' b i r hb hbt hn' ha).elim
  · rw [(owner_of_complete h ha).1, (owner_of_complete h hb).1]
    rfl

/-- The owner reads `rval` once it has seen `handled`, when the handler has
left the node. -/
theorem no_race_rval {n : NodePtr} (h : Inv s) (ha : Enabled s a) (hb : Enabled s b)
    (hla : (.rval n, w) ∈ accesses s a) (hlb : (.rval n, w') ∈ accesses s b) :
    a.thread = b.thread := by
  have hmixed : ∀ t i r, Enabled s (.ret t) → n = s.current t →
      Enabled s (.handlerComplete n i r) → False := by
    rintro t i r hc rfl hi
    have hawait : (s.producers t).pc.awaiting = true := (owner_of_complete h hi).2.1
    rw [show (s.producers t).pc = .cleanup from hc] at hawait
    cases hawait
  rcases accesses_rval hla with ⟨t, rfl, hn⟩ | ⟨i, r, rfl⟩ <;>
    rcases accesses_rval hlb with ⟨t', rfl, hn'⟩ | ⟨i', r', rfl⟩
  · exact congrArg ThreadId.producer (congrArg NodePtr.tid (hn.symm.trans hn'))
  · exact (hmixed t i' r' ha hn hb).elim
  · exact (hmixed t' i r hb hn' ha).elim
  · rw [(owner_of_complete h ha).1, (owner_of_complete h hb).1]
    rfl

/-- The flag is tested under the mutex inside the wait, and without it in the
loop of `callback_thread`. Only the unblocking function writes it, under the
mutex, so the loop test is what can race with that. -/
theorem race_abort (h : Inv s) (hr : Race s .abort a b) :
    (a = .dispatcherLoop ∧ b = .unblockerAbort) ∨ (a = .unblockerAbort ∧ b = .dispatcherLoop) := by
  obtain ⟨ha, hb, hne, w, w', hla, hlb, hw⟩ := hr
  have hexcl : ¬ (s.dispatcher = .testing ∧ s.unblocker = .locked) := by
    rintro ⟨hd, hu⟩
    have hdisp := h.dispatcherLock.mpr (.inl hd)
    rw [h.unblockerLock.mpr (.inl hu)] at hdisp
    cases hdisp
  rcases accesses_abort hla with ⟨rfl, -⟩ | ⟨rfl | rfl, rfl⟩ <;>
    rcases accesses_abort hlb with ⟨rfl, -⟩ | ⟨rfl | rfl, rfl⟩
  · exact absurd rfl hne
  · exact .inr ⟨rfl, rfl⟩
  · exact absurd ⟨hb, ha⟩ hexcl
  · exact .inl ⟨rfl, rfl⟩
  · exact absurd rfl hne
  · exact absurd rfl hne
  · exact absurd ⟨ha, hb⟩ hexcl
  · exact absurd rfl hne
  · exact absurd rfl hne

/-- **One state.** Only the flag can race, between the loop test and the
unblocking function. -/
theorem race_abort_only {l : Location} (h : Inv s) (hr : Race s l a b) : l = .abort ∧
    ((a = .dispatcherLoop ∧ b = .unblockerAbort) ∨
      (a = .unblockerAbort ∧ b = .dispatcherLoop)) := by
  have ⟨ha, hb, hne, w, w', hla, hlb, _⟩ := hr
  cases l with
  | queue => exact absurd (no_race_queue h ha hb (accesses_queue hla) (accesses_queue hlb)) hne
  | link n => exact absurd (no_race_queue h ha hb (accesses_link hla) (accesses_link hlb)) hne
  | callback => exact absurd ((accesses_callback hla).trans (accesses_callback hlb).symm) hne
  | handled n => exact absurd (no_race_handled h ha hb hla hlb) hne
  | rval n => exact absurd (no_race_rval h ha hb hla hlb) hne
  | abort => exact ⟨rfl, race_abort h hr⟩

end Locations

-- ---------------------------------------------------------------------------
-- Runs
-- ---------------------------------------------------------------------------

/-- Ruby lets the unblocking function finish before
`rb_thread_call_without_gvl` returns. -/
def Waited (s : State) (a : Action) : Prop := a = .dispatcherReturn → s.unblocker = .idle

instance (s : State) (a : Action) : Decidable (Waited s a) :=
  inferInstanceAs (Decidable (_ → _))

/-- Then the unblocking function only ever runs while the dispatcher is inside. -/
def UnblockerInside (s : State) : Prop :=
  s.unblocker ≠ .idle → s.dispatcher.insideCall = true

theorem insideCall_signalQueue (s : State) :
    s.signalQueue.dispatcher.insideCall = s.dispatcher.insideCall := by
  unfold State.signalQueue
  by_cases hd : s.dispatcher = .asleep <;> simp [hd, DispatcherPc.insideCall]

/-- **Step.** Ruby calls the unblocking function while the dispatcher is
inside, and the dispatcher leaves only once that function has finished. So it
is never at the loop test while the function runs. -/
theorem unblockerInside_step {s s' : State} {a : Action} (h : UnblockerInside s)
    (hw : Waited s a) (hs : step s a = some s') : UnblockerInside s' := by
  obtain ⟨hen, rfl⟩ := step_eq_some.mp hs
  intro hu
  cases a with
  | dispatcherReturn => exact absurd (hw rfl) hu
  | unblockerCall => exact hen.2
  | unblockerLock => exact h (by rw [hen.1]; simp)
  | unblockerAbort => exact h (by rw [show s.unblocker = .locked from hen]; simp)
  | unblockerSignal =>
    have hin := h (by rw [show s.unblocker = .aborted from hen]; simp)
    exact (insideCall_signalQueue s).trans hin
  | unblockerUnlock => exact absurd rfl hu
  | signalQueue t => exact (insideCall_signalQueue _).trans (h hu)
  | testHandled t =>
    rw [next] at hu ⊢
    split at hu <;> split <;> exact h hu
  | dispatcherLoop =>
    have hin := h hu
    rw [show s.dispatcher = .loopTest from hen] at hin
    cases hin
  | dispatcherSpawn =>
    rw [next, State.spawn] at hu ⊢
    have hin : s.dispatcher.insideCall = true := by
      split at hu <;> exact h hu
    rw [show s.dispatcher = .back from hen] at hin
    cases hin
  | dispatcherTest =>
    rw [next, State.waitTest]
    split
    · split <;> rfl
    · rfl
  | dispatcherLock | dispatcherRelock | dispatcherWakeSpuriously | dispatcherUnlock => rfl
  | _ => exact h hu

/-- One callback is on its way to its handler when Ruby asks the dispatcher to stop. -/
def stopWhileReturning : List Action :=
  [.call 0, .lockQueue 0, .push 0, .unlockQueue 0, .dispatcherLoop, .dispatcherLock,
   .dispatcherTest, .dispatcherUnlock, .unblockerCall, .unblockerLock, .dispatcherReturn,
   .dispatcherSpawn]

/-- **Data races.** In every run without a stale abort the only race is on the
abort flag, between the loop test of `callback_thread` and the unblocking
function; there is none in the runs in which Ruby waits for the unblocking
function before `rb_thread_call_without_gvl` returns; and without that the
race occurs. -/
theorem race_free :
    (∀ as s, Lts.Exec step (fun s a => ¬ StaleAbort s a) init as s → ∀ l a b, Race s l a b →
      l = .abort ∧ ((a = .dispatcherLoop ∧ b = .unblockerAbort) ∨
        (a = .unblockerAbort ∧ b = .dispatcherLoop))) ∧
    (∀ as s, Lts.Exec step (fun s a => ¬ StaleAbort s a ∧ Waited s a) init as s →
      ∀ l a b, ¬ Race s l a b) ∧
    ∃ as s, Lts.Exec step (fun s a => ¬ StaleAbort s a) init as s ∧
      Race s .abort .dispatcherLoop .unblockerAbort := by
  refine ⟨fun as s h l a b hr => race_abort_only (inv_exec h) hr, fun as s h l a b hr => ?_, ?_⟩
  · have hinv := inv_exec (h.mono fun _ _ hg => hg.1)
    have hinside : UnblockerInside s := h.invariant (I := UnblockerInside)
      (fun _ _ _ hI hg hs => unblockerInside_step hI hg.2 hs) fun hu => absurd rfl hu
    have hclash : ¬ (s.dispatcher = .loopTest ∧ s.unblocker = .locked) := by
      rintro ⟨hd, hu⟩
      have hin := hinside (by rw [hu]; simp)
      rw [hd] at hin
      cases hin
    rcases (race_abort_only hinv hr).2 with ⟨rfl, rfl⟩ | ⟨rfl, rfl⟩
    · exact hclash ⟨hr.1, hr.2.1⟩
    · exact hclash ⟨hr.2.1, hr.1⟩
  · have hrun : (Lts.runIf step (fun s a => !decide (StaleAbort s a)) init stopWhileReturning).map
        (fun s => (s.dispatcher, s.unblocker)) = some (.loopTest, .locked) := by
      decide +kernel
    obtain ⟨s, hs, hval⟩ := Option.map_eq_some_iff.mp hrun
    obtain ⟨hd, hu⟩ := Prod.mk.inj hval
    refine ⟨stopWhileReturning, s, Lts.exec_of_runIf (fun s a h => by simpa using h) hs, hd, hu,
      by simp [Action.thread], false, true, ?_, ?_, .inr rfl⟩ <;> simp [accesses]

end AntWireless.Callbacks
