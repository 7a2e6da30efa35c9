import AntWireless.Callbacks.Protocol

/-!
# AntWireless — the GVL and the calls that wait for a reply

The callback protocol next to Ruby threads that call `Channel#open`, `#close`,
`#set_channel_id`, `#set_channel_period` and `#set_channel_search_timeout` with a
timeout. None of these gives up the global VM lock (GVL) around its `ANT_*_RTO`
call, while `callback_thread` needs the GVL to return from
`rb_thread_call_without_gvl`, and a handler thread needs it for every step.

Of the library: an `ANT_*_RTO` call with a nonzero response time returns before that
time only after the single receive thread has processed the reply, and the receive
thread processes nothing while it is inside `rant_callback`. It may call
`rant_callback` for a response before or after it lets the waiting call go.

* `CircularWait` — a Ruby thread waits in such a call for the receive thread, which
  waits in `rant_callback` for a callback that cannot be handled before the call ends.
* `circular_wait_iff` — a run stays clear of it exactly when no timed call starts
  while a callback is outstanding and no callback starts while a timed call waits.
-/

namespace AntWireless.Callbacks

-- ---------------------------------------------------------------------------
-- The model
-- ---------------------------------------------------------------------------

/-- The library's single receive thread, as a producer. -/
def receiveThread : Nat := 0

/-- The threads that need the GVL: the dispatcher, the handler threads and the
threads of the program. -/
inductive RubyThread
  | dispatcher
  | handler (n : NodePtr) (i : Nat)
  | main (j : Nat)
  deriving DecidableEq, Repr

/-- The methods that end in an `ANT_*_RTO` call. -/
inductive TimedMethod
  | openChannel
  | close
  | setChannelId
  | setChannelPeriod
  | setChannelSearchTimeout
  deriving DecidableEq, Repr

/-- An `ANT_*_RTO` call that has not returned. -/
structure LibraryCall where
  method : TimedMethod
  ulResponseTime : UInt32
  replied : Bool
  deriving DecidableEq, Repr

/-- The call waits for the receive thread. -/
def LibraryCall.Waits (c : LibraryCall) : Prop := c.ulResponseTime ≠ 0 ∧ c.replied = false

/-- The protocol, the holder of the GVL, and the library calls in progress. -/
structure GvlState where
  proto : State
  gvl : Option RubyThread
  calls : RubyThread → Option LibraryCall

def gvlInit : GvlState := ⟨init, none, fun _ => none⟩

inductive GvlAction
  | acquire (r : RubyThread)
  | release (r : RubyThread)
  -- `r` enters an `ANT_*_RTO` call
  | enterCall (r : RubyThread) (m : TimedMethod) (ulResponseTime : UInt32)
  -- the receive thread processes the reply to the call of `r`
  | reply (r : RubyThread)
  | returnCall (r : RubyThread)
  | timeoutCall (r : RubyThread)
  | proto (a : Action)
  deriving DecidableEq, Repr

/-- The Ruby thread whose code an action of the protocol is, where it needs
the GVL. Inside `rb_thread_call_without_gvl` the dispatcher does not;
returning from it does. -/
def rubyThreadOf : Action → Option RubyThread
  | .dispatcherLoop | .dispatcherReturn | .dispatcherSpawn => some .dispatcher
  | .handlerRun n i | .handlerEnd n i _ | .handlerLock n i _ | .handlerComplete n i _
  | .handlerUnlock n i _ => some (.handler n i)
  | _ => none

/-- The thread may take the GVL: the dispatcher not while it waits without it. -/
def wantsGvl (s : State) : RubyThread → Bool
  | .dispatcher => s.dispatcher = .loopTest ∨ s.dispatcher = .unlocked ∨ s.dispatcher = .back
  | .handler n i => i < (s.handlers n).length
  | .main _ => true

/-- The thread may call a method of a channel: a thread of the program, or a
handler thread from inside its callback function. -/
def mayCall (s : State) : RubyThread → Bool
  | .dispatcher => false
  | .handler n i => HandlerAt s n i .running
  | .main _ => true

/-- The thread runs Ruby or extension code: it has the GVL and is not in the library. -/
def GvlState.Active (x : GvlState) (r : RubyThread) : Prop := x.gvl = some r ∧ x.calls r = none

instance (x : GvlState) (r : RubyThread) : Decidable (x.Active r) :=
  inferInstanceAs (Decidable (_ ∧ _))

instance (c : LibraryCall) : Decidable c.Waits := inferInstanceAs (Decidable (_ ∧ _))

/-- The receive thread alone calls `rant_callback`; a Ruby thread has to run. -/
def mayStep (x : GvlState) : Action → Bool
  | .call t => t = receiveThread
  | a =>
    match rubyThreadOf a with
    | some r => x.Active r
    | none => true

/-- A step of the protocol under the GVL. Entering
`rb_thread_call_without_gvl` (and leaving `callback_thread`) gives it up. -/
def gvlProto (x : GvlState) (a : Action) : Option GvlState :=
  (step x.proto a).map fun s =>
    { x with proto := s, gvl := if a = .dispatcherLoop then none else x.gvl }

/-- The step function. -/
def gvlStep (x : GvlState) : GvlAction → Option GvlState
  | .acquire r =>
    if x.gvl = none ∧ wantsGvl x.proto r = true then some { x with gvl := some r } else none
  | .release r => if x.Active r then some { x with gvl := none } else none
  | .enterCall r m time =>
    if x.Active r ∧ mayCall x.proto r = true then
      some { x with calls := Function.update x.calls r (some ⟨m, time, false⟩) }
    else none
  | .reply r =>
    match x.calls r with
    | some c =>
      if (x.proto.producers receiveThread).pc = .outside then
        some { x with calls := Function.update x.calls r (some { c with replied := true }) }
      else none
    | none => none
  | .returnCall r =>
    match x.calls r with
    | some c =>
      if c.Waits then none else some { x with calls := Function.update x.calls r none }
    | none => none
  | .timeoutCall r =>
    match x.calls r with
    | some _ => some { x with calls := Function.update x.calls r none }
    | none => none
  | .proto a => if mayStep x a = true then gvlProto x a else none

-- ---------------------------------------------------------------------------
-- The circular wait
-- ---------------------------------------------------------------------------

/-- The receive thread is inside `rant_callback` and its callback is not handled. -/
def ReceiveBusy (s : State) : Prop :=
  (s.producers receiveThread).pc ≠ .outside ∧
    (s.nodes (s.current receiveThread)).handled = false

/-- The library call of `r` neither returns nor times out. -/
def StaysIn (r : RubyThread) (_ : GvlState) (a : GvlAction) : Prop :=
  a ≠ .returnCall r ∧ a ≠ .timeoutCall r

/-- A Ruby thread waits in a library call for the receive thread, while that
waits in `rant_callback` for a callback which, whatever happens, is not
handled before the library call ends. -/
def CircularWait (x : GvlState) : Prop :=
  ∃ r c, x.calls r = some c ∧ c.Waits ∧ ReceiveBusy x.proto ∧
    ∀ as y, Lts.Exec gvlStep (StaysIn r) x as y →
      (y.proto.nodes (x.proto.current receiveThread)).handled = false

/-- No timed call starts while a callback of the receive thread is
outstanding, and the receive thread does not call `rant_callback` while a
timed call waits for it. -/
def Ordered (x : GvlState) : GvlAction → Prop
  | .enterCall _ _ time => time ≠ 0 → ¬ ReceiveBusy x.proto
  | .proto (.call _) => ∀ r c, x.calls r = some c → ¬ c.Waits
  | _ => True

-- ---------------------------------------------------------------------------
-- What a step of the protocol does to the receive thread
-- ---------------------------------------------------------------------------

/-- Moving a producer that is inside its call leaves everybody inside theirs,
and in the same call. -/
theorem setProducer_inside {s : State} {t u : Nat} {pc : ProducerPc}
    (hpc : (s.producers t).pc ≠ .outside)
    (hin : ((s.setProducer t pc).producers u).pc ≠ .outside) :
    (s.producers u).pc ≠ .outside ∧
      ((s.setProducer t pc).producers u).calls = (s.producers u).calls := by
  by_cases hu : u = t
  · subst hu
    exact ⟨hpc, by simp [State.setProducer]⟩
  · simp only [State.setProducer, Function.update_of_ne hu] at hin ⊢
    exact ⟨hin, trivial⟩

theorem producers_waitTest (s : State) : s.waitTest.producers = s.producers := by
  unfold State.waitTest
  split
  · split <;> rfl
  · rfl

theorem producers_spawn (s : State) : s.spawn.producers = s.producers := by
  unfold State.spawn
  split <;> rfl

/-- A producer gets inside `rant_callback` by calling it only, and stays in
the call it is in while it is inside. Stated backwards: inside after the step
and not by a call means inside before, with as many calls behind it. -/
theorem producer_next {s : State} {a : Action} {u : Nat} (hen : Enabled s a)
    (ha : a ≠ .call u) (hin : ((next s a).producers u).pc ≠ .outside) :
    (s.producers u).pc ≠ .outside ∧ ((next s a).producers u).calls = (s.producers u).calls := by
  cases a with
  | call t =>
    have hu : u ≠ t := fun e => ha (by rw [e])
    simp only [next, State.setProducer, State.setNode, Function.update_of_ne hu] at hin ⊢
    exact ⟨hin, trivial⟩
  | lockQueue t | lockNode t | relockNode t =>
    exact setProducer_inside (t := t) (by rw [hen.1]; simp) hin
  | push t | unlockQueue t | signalQueue t | wakeSpuriously t | unlockNode t =>
    exact setProducer_inside (t := t) (by rw [show (s.producers t).pc = _ from hen]; simp) hin
  | testHandled t =>
    have hpc : (s.producers t).pc ≠ .outside := by
      rw [show (s.producers t).pc = .testing from hen]
      simp
    rw [next] at hin ⊢
    split at hin <;> split <;> first | exact setProducer_inside hpc hin | contradiction
  | ret t =>
    by_cases hu : u = t
    · subst hu
      simp [next] at hin
    · simp only [next, Function.update_of_ne hu] at hin ⊢
      exact ⟨hin, trivial⟩
  | handlerComplete n i r =>
    by_cases hu : u = n.tid
    · subst hu
      simp only [next, State.signalNode, State.setProducer, State.setNode, State.setHandler,
        Function.update_self] at hin ⊢
      refine ⟨fun hout => hin ?_, trivial⟩
      simp [hout]
    · simp only [next, State.signalNode, State.setProducer, State.setNode, State.setHandler,
        Function.update_of_ne hu] at hin ⊢
      exact ⟨hin, trivial⟩
  | dispatcherTest =>
    rw [next, producers_waitTest] at hin ⊢
    exact ⟨hin, rfl⟩
  | dispatcherSpawn =>
    rw [next, producers_spawn] at hin ⊢
    exact ⟨hin, rfl⟩
  | _ => exact ⟨hin, rfl⟩

theorem nodes_waitTest (s : State) : s.waitTest.nodes = s.nodes := by
  unfold State.waitTest
  split
  · split <;> rfl
  · rfl

theorem nodes_spawn (s : State) : s.spawn.nodes = s.nodes := by
  unfold State.spawn
  split <;> rfl

@[simp] theorem handled_setNodeMutex (s : State) (n m : NodePtr) (h : Option NodeHolder) :
    ((s.setNodeMutex n h).nodes m).handled = (s.nodes m).handled := by
  by_cases hm : m = n
  · subst hm
    simp [State.setNodeMutex, State.setNode]
  · simp [State.setNodeMutex, State.setNode, hm]

/-- The `handled` flag of a node is written by the call that owns it, which
clears it, and by the handler that completes it. Everything else that a step
may write into a node is `rval` or the mutex. -/
theorem handled_next {s : State} {a : Action} {n : NodePtr}
    (ha : ∀ i r, a ≠ .handlerComplete n i r) :
    ((next s a).nodes n).handled = (s.nodes n).handled ∨
      ∃ t, a = .call t ∧ n = s.current t ∧ ((next s a).nodes n).handled = false := by
  cases a with
  | call t =>
    by_cases hn : n = s.current t
    · exact .inr ⟨t, rfl, hn, by simp [next, State.setNode, State.setProducer, hn]⟩
    · exact .inl (by simp [next, State.setNode, State.setProducer, hn])
  | handlerComplete m i r =>
    have hn : n ≠ m := fun e => ha i r (by rw [e])
    exact .inl (by simp [next, State.signalNode, State.setNode, State.setProducer,
      State.setHandler, hn])
  | testHandled t =>
    refine .inl ?_
    rw [next]
    split
    · rw [handled_setNodeMutex]
      rfl
    · rfl
  | lockNode t | relockNode t | unlockNode t | handlerLock m i r | handlerUnlock m i r =>
    refine .inl ?_
    rw [next, handled_setNodeMutex]
    rfl
  | dispatcherTest => exact .inl (by rw [next, nodes_waitTest])
  | dispatcherSpawn => exact .inl (by rw [next, nodes_spawn])
  | _ => exact .inl rfl

/-- Only a call makes the receive thread busy: inside the call its node is not
handled before the handler completes it, and the flag is not cleared in
between. -/
theorem receiveBusy_of_next {s : State} {a : Action} (hen : Enabled s a)
    (ha : a ≠ .call receiveThread) (hbusy : ReceiveBusy (next s a)) : ReceiveBusy s := by
  obtain ⟨hin, hhandled⟩ := hbusy
  obtain ⟨hin', hcalls⟩ := producer_next hen ha hin
  refine ⟨hin', ?_⟩
  have hcur : (next s a).current receiveThread = s.current receiveThread := by
    rw [State.current, State.current, hcalls]
  rw [hcur] at hhandled
  by_cases hcomplete : ∃ i r, a = .handlerComplete (s.current receiveThread) i r
  · obtain ⟨i, r, rfl⟩ := hcomplete
    simp [next, State.signalNode, State.setNode, State.setProducer, State.setHandler] at hhandled
  · obtain hsame | ⟨t, rfl, hnode, -⟩ :=
      handled_next (s := s) (n := s.current receiveThread) fun i r e => hcomplete ⟨i, r, e⟩
    · rw [← hsame]
      exact hhandled
    · refine absurd ?_ ha
      rw [show receiveThread = t from congrArg NodePtr.tid hnode]

-- ---------------------------------------------------------------------------
-- Steps under the GVL
-- ---------------------------------------------------------------------------

/-- A protocol step under the GVL is a step of the protocol, and leaves the
library calls alone. -/
theorem gvlProto_eq_some {x y : GvlState} {a : Action} (h : gvlProto x a = some y) :
    Enabled x.proto a ∧ y.proto = next x.proto a ∧ y.calls = x.calls ∧
      y.gvl = if a = .dispatcherLoop then none else x.gvl := by
  unfold gvlProto at h
  obtain ⟨s, hs, rfl⟩ := Option.map_eq_some_iff.mp h
  obtain ⟨hen, rfl⟩ := step_eq_some.mp hs
  exact ⟨hen, rfl, rfl, rfl⟩

/-- A step of the protocol is one of a Ruby thread that runs, or of a thread
that does without the GVL. -/
theorem mayStep_eq_true {x : GvlState} {a : Action} (h : mayStep x a = true) :
    (∀ r, rubyThreadOf a = some r → x.Active r) ∧ ∀ t, a = .call t → t = receiveThread := by
  unfold mayStep at h
  split at h
  · rename_i t
    refine ⟨fun r hr => (nomatch hr), ?_⟩
    rintro _ ⟨⟩
    exact of_decide_eq_true h
  · rename_i hcall
    refine ⟨fun r hr => ?_, fun t ht => absurd ht (hcall t)⟩
    rw [hr] at h
    exact of_decide_eq_true h

theorem gvlStep_proto {x y : GvlState} {a : Action} (h : gvlStep x (.proto a) = some y) :
    mayStep x a = true ∧ gvlProto x a = some y := by
  rwa [gvlStep, Option.ite_none_right_eq_some] at h

/-- Everything a step can do, with its guard: a step of the protocol, taking
or giving up the GVL, entering a library call, the reply to it, leaving it, or
running into its time-out. -/
theorem gvlStep_cases {x y : GvlState} {b : GvlAction} (h : gvlStep x b = some y) :
    (∃ a, b = .proto a ∧ mayStep x a = true ∧ gvlProto x a = some y) ∨
    (∃ r, x.gvl = none ∧ y = { x with gvl := some r }) ∨
    (∃ r, x.Active r ∧ y = { x with gvl := none }) ∨
    (∃ r m time, b = .enterCall r m time ∧ x.Active r ∧
      y = { x with calls := Function.update x.calls r (some ⟨m, time, false⟩) }) ∨
    (∃ r c, x.calls r = some c ∧
      y = { x with calls := Function.update x.calls r (some { c with replied := true }) }) ∨
    (∃ r c, x.calls r = some c ∧ (b = .returnCall r ∨ b = .timeoutCall r) ∧
      y = { x with calls := Function.update x.calls r none }) := by
  cases b with
  | proto a => exact .inl ⟨a, rfl, gvlStep_proto h⟩
  | acquire r =>
    rw [gvlStep, Option.ite_none_right_eq_some, Option.some.injEq] at h
    exact .inr (.inl ⟨r, h.1.1, h.2.symm⟩)
  | release r =>
    rw [gvlStep, Option.ite_none_right_eq_some, Option.some.injEq] at h
    exact .inr (.inr (.inl ⟨r, h.1, h.2.symm⟩))
  | enterCall r m time =>
    rw [gvlStep, Option.ite_none_right_eq_some, Option.some.injEq] at h
    exact .inr (.inr (.inr (.inl ⟨r, m, time, rfl, h.1.1, h.2.symm⟩)))
  | reply r =>
    rw [gvlStep] at h
    split at h
    · rename_i c hc
      rw [Option.ite_none_right_eq_some, Option.some.injEq] at h
      exact .inr (.inr (.inr (.inr (.inl ⟨r, c, hc, h.2.symm⟩))))
    · cases h
  | returnCall r =>
    rw [gvlStep] at h
    split at h
    · rename_i c hc
      split at h <;> cases h
      exact .inr (.inr (.inr (.inr (.inr ⟨r, c, hc, .inl rfl, rfl⟩))))
    · cases h
  | timeoutCall r =>
    rw [gvlStep] at h
    split at h
    · rename_i c hc
      cases h
      exact .inr (.inr (.inr (.inr (.inr ⟨r, c, hc, .inr rfl, rfl⟩))))
    · cases h

/-- A thread inside a library call has the GVL. -/
def Held (x : GvlState) : Prop := ∀ r, x.calls r ≠ none → x.gvl = some r

/-- An active thread is not in a library call, and nobody else is. -/
theorem Held.no_call {x : GvlState} {r r' : RubyThread} (hx : Held x) (hr : x.Active r) :
    x.calls r' = none := by
  by_contra hcall
  have hown := hx r' hcall
  rw [hr.1, Option.some.injEq] at hown
  exact hcall (hown ▸ hr.2)

/-- **Step.** A library call is entered with the GVL and keeps it until it is
left; nobody else can take it, and a thread inside the call runs no code that
would give it up. So at most one thread is in the library at a time. -/
theorem held_step {x y : GvlState} {b : GvlAction} (hx : Held x) (h : gvlStep x b = some y) :
    Held y := by
  intro r hr
  obtain ⟨a, rfl, hmay, hstep⟩ | ⟨r', hfree, rfl⟩ | ⟨r', hactive, rfl⟩ |
    ⟨r', m, time, rfl, hactive, rfl⟩ | ⟨r', c, hc, rfl⟩ | ⟨r', c, hc, -, rfl⟩ := gvlStep_cases h
  · obtain ⟨-, -, hcalls, hgvl⟩ := gvlProto_eq_some hstep
    rw [hcalls] at hr
    rw [hgvl]
    split
    · rename_i hloop
      subst hloop
      exact absurd (hx.no_call ((mayStep_eq_true hmay).1 .dispatcher rfl)) hr
    · exact hx r hr
  · exact absurd (hx r hr) (by rw [hfree]; simp)
  · exact absurd (hx.no_call hactive) hr
  all_goals
    by_cases hrr : r = r'
    · subst hrr
      first | exact hactive.1 | exact hx r (by rw [hc]; simp)
    · exact hx r (by simpa [hrr] using hr)

/-- **Run.** In every state a thread inside a library call has the GVL. -/
theorem held_exec {as : List GvlAction} {x : GvlState}
    (hrun : Lts.Exec gvlStep Lts.Any gvlInit as x) : Held x :=
  hrun.invariant (fun _ _ _ hx _ h => held_step hx h) fun _ hr => absurd rfl hr

-- ---------------------------------------------------------------------------
-- Runs that keep the order
-- ---------------------------------------------------------------------------

/-- No library call that waits for the receive thread overlaps a callback of it. -/
def Apart (x : GvlState) : Prop := ∀ r c, x.calls r = some c → c.Waits → ¬ ReceiveBusy x.proto

/-- **Step.** A call that starts finds no callback of the receive thread
outstanding, and the receive thread finds no call that waits for it; nothing
else makes the one wait or the other busy. -/
theorem apart_step {x y : GvlState} {b : GvlAction} (hx : Apart x) (hord : Ordered x b)
    (h : gvlStep x b = some y) : Apart y := by
  intro r c hc hwaits
  obtain ⟨a, rfl, hmay, hstep⟩ | ⟨r', hfree, rfl⟩ | ⟨r', hactive, rfl⟩ |
    ⟨r', m, time, rfl, hactive, rfl⟩ | ⟨r', c', hc', rfl⟩ | ⟨r', c', hc', -, rfl⟩ :=
      gvlStep_cases h
  · obtain ⟨hen, hproto, hcalls, -⟩ := gvlProto_eq_some hstep
    rw [hcalls] at hc
    rw [hproto]
    intro hbusy
    refine hx r c hc hwaits (receiveBusy_of_next hen ?_ hbusy)
    rintro rfl
    exact hord r c hc hwaits
  · exact hx r c hc hwaits
  · exact hx r c hc hwaits
  · by_cases hrr : r = r'
    · subst hrr
      simp only [Function.update_self, Option.some.injEq] at hc
      subst hc
      exact hord hwaits.1
    · exact hx r c (by simpa [hrr] using hc) hwaits
  · by_cases hrr : r = r'
    · subst hrr
      simp only [Function.update_self, Option.some.injEq] at hc
      subst hc
      exact absurd hwaits.2 (by simp)
    · exact hx r c (by simpa [hrr] using hc) hwaits
  · by_cases hrr : r = r'
    · subst hrr
      simp at hc
    · exact hx r c (by simpa [hrr] using hc) hwaits

/-- **Run.** In a run whose steps keep the order no library call that waits
overlaps a callback. -/
theorem apart_exec {as : List GvlAction} {x : GvlState}
    (hrun : Lts.Exec gvlStep Ordered gvlInit as x) : Apart x :=
  hrun.invariant (fun _ _ _ => apart_step) fun _ _ hc => absurd hc (by simp [gvlInit])

-- ---------------------------------------------------------------------------
-- Runs that do not
-- ---------------------------------------------------------------------------

/-- While a library call lasts, no handler thread runs, so no callback is
completed: the flag of a node that is not handled stays as it is, whatever
else happens. The one step that would set it needs the GVL, which the call
has. -/
theorem unhandled_step {x y : GvlState} {b : GvlAction} {r : RubyThread} {n : NodePtr}
    (hx : Held x ∧ x.calls r ≠ none ∧ (x.proto.nodes n).handled = false)
    (hstays : StaysIn r x b) (h : gvlStep x b = some y) :
    Held y ∧ y.calls r ≠ none ∧ (y.proto.nodes n).handled = false := by
  obtain ⟨hheld, hr, hn⟩ := hx
  refine ⟨held_step hheld h, ?_⟩
  obtain ⟨a, rfl, hmay, hstep⟩ | ⟨r', hfree, rfl⟩ | ⟨r', hactive, rfl⟩ |
    ⟨r', m, time, rfl, hactive, rfl⟩ | ⟨r', c, hc, rfl⟩ | ⟨r', c, hc, hend, rfl⟩ :=
      gvlStep_cases h
  · obtain ⟨-, hproto, hcalls, -⟩ := gvlProto_eq_some hstep
    rw [hcalls, hproto]
    refine ⟨hr, ?_⟩
    have hcomplete : ∀ i v, a ≠ .handlerComplete n i v := by
      rintro i v rfl
      exact hr (hheld.no_call ((mayStep_eq_true hmay).1 _ rfl))
    obtain hsame | ⟨-, -, -, hclear⟩ := handled_next (s := x.proto) hcomplete
    · rw [hsame]
      exact hn
    · exact hclear
  · exact ⟨hr, hn⟩
  · exact ⟨hr, hn⟩
  · exact absurd (hheld.no_call hactive) hr
  · by_cases hrr : r = r'
    · subst hrr
      exact ⟨by simp, hn⟩
    · exact ⟨by simpa [hrr] using hr, hn⟩
  · have hrr : r ≠ r' := by
      rintro rfl
      rcases hend with rfl | rfl
      · exact hstays.1 rfl
      · exact hstays.2 rfl
    exact ⟨by simpa [hrr] using hr, hn⟩

/-- A library call that waits while the receive thread is busy is a circular wait. -/
theorem circularWait_of_overlap {x : GvlState} {r : RubyThread} {c : LibraryCall}
    (hx : Held x) (hc : x.calls r = some c) (hwaits : c.Waits) (hbusy : ReceiveBusy x.proto) :
    CircularWait x :=
  ⟨r, c, hc, hwaits, hbusy, fun _ _ hrun =>
    (hrun.invariant (fun _ _ _ => unhandled_step) ⟨hx, by rw [hc]; simp, hbusy.2⟩).2.2⟩

/-- A step that breaks the order starts a call over an outstanding callback,
or calls `rant_callback` while a call waits. Either way a thread that has the
GVL waits for the receive thread, and that for a handler which needs the
GVL. -/
theorem circularWait_of_step {x y : GvlState} {b : GvlAction} (hx : Held x)
    (h : gvlStep x b = some y) (hord : ¬ Ordered x b) : CircularWait y := by
  have hy := held_step hx h
  cases b with
  | enterCall r m time =>
    simp only [Ordered, Classical.not_imp, not_not] at hord
    rw [gvlStep, Option.ite_none_right_eq_some, Option.some.injEq] at h
    obtain ⟨-, rfl⟩ := h
    exact circularWait_of_overlap hy (r := r) (Function.update_self ..) ⟨hord.1, rfl⟩ hord.2
  | proto a =>
    cases a with
    | call t =>
      simp only [Ordered, not_forall, not_not] at hord
      obtain ⟨r, c, hc, hwaits⟩ := hord
      obtain ⟨hmay, hstep⟩ := gvlStep_proto h
      obtain rfl := (mayStep_eq_true hmay).2 t rfl
      obtain ⟨-, hproto, hcalls, -⟩ := gvlProto_eq_some hstep
      refine circularWait_of_overlap hy (r := r) (by rw [hcalls, hc]) hwaits ?_
      rw [hproto]
      simp [ReceiveBusy, next, State.setProducer, State.setNode, State.current]
    | _ => exact absurd trivial hord
  | _ => exact absurd trivial hord

/-- **Circular waits.** A run whose steps keep the order reaches no circular
wait, and a step of any run that breaks it leads into one. The condition is on
the step and on the state before it: whether a callback is outstanding, and
whether a call waits. -/
theorem circular_wait_iff (as : List GvlAction) (x : GvlState) :
    (Lts.Exec gvlStep Ordered gvlInit as x → ¬ CircularWait x) ∧
      ∀ b y, Lts.Exec gvlStep Lts.Any gvlInit as x → gvlStep x b = some y →
        ¬ Ordered x b → CircularWait y := by
  refine ⟨fun hrun => ?_, fun b y hrun h hord => circularWait_of_step (held_exec hrun) h hord⟩
  rintro ⟨r, c, hc, hwaits, hbusy, -⟩
  exact apart_exec hrun r c hc hwaits hbusy

/-- The main program waits in `Channel#open( 1000 )`. -/
def waitingOpen : GvlState :=
  ⟨init, some (.main 0),
    Function.update (fun _ => none) (.main 0) (some ⟨.openChannel, 1000, false⟩)⟩

/-- The main program takes the GVL and opens a channel with a timeout. -/
theorem exec_waitingOpen : Lts.Exec gvlStep Ordered gvlInit
    [.acquire (.main 0), .enterCall (.main 0) .openChannel 1000] waitingOpen := by
  have hacquire : gvlStep gvlInit (.acquire (.main 0)) =
      some { gvlInit with gvl := some (.main 0) } := rfl
  refine .snoc (.single trivial hacquire) ?_ rfl
  intro _ hbusy
  exact hbusy.1 rfl

/-- Before the reply, the receive thread delivers an event. -/
theorem gvlStep_waitingOpen : gvlStep waitingOpen (.proto (.call receiveThread)) =
    some { waitingOpen with proto := next init (.call receiveThread) } := rfl

/-- The event comes while `open` waits for the receive thread. -/
theorem waitingOpen_not_ordered : ¬ Ordered waitingOpen (.proto (.call receiveThread)) := by
  intro hord
  exact hord (.main 0) ⟨.openChannel, 1000, false⟩ (by simp [waitingOpen]) (by decide)

/-- Before the event `open` may still be answered; afterwards it cannot be. -/
theorem circular_wait_iff_waitingOpen :
    ¬ CircularWait waitingOpen ∧
      CircularWait { waitingOpen with proto := next init (.call receiveThread) } :=
  ⟨(circular_wait_iff _ _).1 exec_waitingOpen,
    (circular_wait_iff _ _).2 _ _ (exec_waitingOpen.mono fun _ _ _ => trivial)
      gvlStep_waitingOpen waitingOpen_not_ordered⟩

/-- **The circular wait.** An event that arrives just before the reply to a
timed `Channel#open` blocks that reply. -/
theorem openDuringEvent_circular :
    ∃ x, Lts.Exec gvlStep Lts.Any gvlInit
        [.acquire (.main 0), .enterCall (.main 0) .openChannel 1000, .proto (.call 0)] x ∧
      CircularWait x := by
  have hrun : Lts.Exec gvlStep Lts.Any gvlInit _ waitingOpen :=
    exec_waitingOpen.mono fun _ _ _ => trivial
  exact ⟨_, .snoc hrun trivial gvlStep_waitingOpen,
    circularWait_of_step (held_exec hrun) gvlStep_waitingOpen waitingOpen_not_ordered⟩

end AntWireless.Callbacks
