import AntWireless.Channel.Events

/-!
# AntWireless — event routing

The buffer an event lands in is that of the object that called `on_event` last for the
number; the block called for it is that of the object the registry holds for the number
when the handler runs. `on_event` does not ask whether its object is registered.

* `BindsAlone` — the condition on `on_event` under which the two agree.
* `events_routed` — under it, a block is only called for events written into the buffer
  of its own object, with the bytes written there.
* `lateBinding_misroutes` — an `on_event` on a channel object that was replaced.
-/

namespace AntWireless.Channel

/-- `on_event` is called on an object while the registry holds no other object
with a block for the number; and, if it holds this object, no queued event for
the number was written into another object's buffer. -/
def BindsAlone (s : EventState) : EventAction → Prop
  | .ruby (.onEvent o (some _)) =>
    ∀ n ∈ s.chan.numberOf o, ∀ p ∈ s.chan.registry.lookup (int2fix n),
      if p = o then
        ∀ k, k < s.nextEvent → ∀ f ∈ s.flights k,
          f.phase = .queued → f.event.ucANTChannel = n → f.event.buffer = o
      else s.chan.blockOf p = none
  | _ => True

instance (s : EventState) : ∀ a, Decidable (BindsAlone s a)
  | .ruby (.onEvent _ (some _)) => Option.decidableForallMem _
  | .ruby (.onEvent _ none) | .ruby (.assignChannel ..) | .ruby (.close ..) | .ruby .reset
  | .ruby .antClose | .ruby (.gc _) | .report .. | .start _ | .lookupTx _ | .finish .. =>
    inferInstanceAs (Decidable True)

/-- A called block is that of the object whose buffer received the event, and
is given the event's bytes. -/
def RoutedRight : Observation → Prop
  | .called _ e o _ data => o = e.buffer ∧ data.take e.bytes.bytes.length = e.bytes.bytes
  | _ => True

/-- A called block is judged by the object it belongs to and by the first
bytes of its string. -/
theorem routedRight_called {k : Nat} {e : Event} {o : ObjId} {b : Block} {data : List UInt8} :
    RoutedRight (.called k e o b data) ↔
      o = e.buffer ∧ data.take e.bytes.bytes.length = e.bytes.bytes := Iff.rfl

-- ---------------------------------------------------------------------------
-- The invariant
-- ---------------------------------------------------------------------------

/-- Wherever the registry holds an object with a block, the library writes
that object's buffer, and so it has for the queued events; their bytes are
still there. -/
structure Routed (s : EventState) : Prop where
  fn : ∀ n o p, s.chan.library.eventFn n = some o →
    s.chan.registry.lookup (int2fix n) = some p → s.chan.blockOf p ≠ none → p = o
  queued : ∀ k e p, s.flights k = some ⟨e, .queued⟩ →
    s.chan.registry.lookup (int2fix e.ucANTChannel) = some p → s.chan.blockOf p ≠ none →
    p = e.buffer
  ptr : ∀ k e o tx, s.flights k = some ⟨e, .running o tx⟩ → o = e.buffer
  intact : ∀ k e ch, s.flights k = some ⟨e, .queued⟩ → s.chan.objects e.buffer = some ch →
    ch.buffer.bytes.take e.bytes.bytes.length = e.bytes.bytes

theorem routed_init : Routed eventInit where
  fn _ _ _ h := nomatch h
  queued _ _ _ h := nomatch h
  ptr _ _ _ _ h := nomatch h
  intact _ _ _ h := nomatch h

theorem blockOf_of_some {c : State} {o : ObjId} {ch : ChannelObject}
    (ho : c.objects o = some ch) : c.blockOf o = ch.callback := by
  rw [State.blockOf, ho]
  rfl

/-- Writing a buffer leaves the blocks as they are. -/
theorem SameShape.blockOf {c c' : State} (h : SameShape c c') (p : ObjId) :
    c'.blockOf p = c.blockOf p := by
  cases hp : c.objects p with
  | some ch =>
    obtain ⟨ch', hp', -, hcb⟩ := h.kept p ch hp
    rw [blockOf_of_some hp', blockOf_of_some hp, hcb]
  | none =>
    cases hp' : c'.objects p with
    | some ch' =>
      obtain ⟨ch, hch, -⟩ := h.old p ch' hp'
      rw [hp] at hch
      cases hch
    | none => rw [State.blockOf, State.blockOf, hp, hp']

/-- A block an object has after an operation it had before, or the operation set it. -/
theorem Change.block_old {c c' : State} {a : Action} {p : ObjId} (h : Change c c' a)
    (hp : c'.blockOf p ≠ none) : c.blockOf p ≠ none ∨ ∃ b, a = .onEvent p (some b) := by
  obtain ⟨b, hb⟩ := Option.ne_none_iff_exists'.mp hp
  obtain ⟨ch', hp', hcb'⟩ := Option.bind_eq_some_iff.mp hb
  rcases h.object_old hp' with ⟨ch, hch, -, -, -, hcb | ⟨b', ha, -⟩⟩ | ⟨-, -, hcb⟩
  · refine .inl ?_
    rw [blockOf_of_some hch, ← hcb, hcb']
    simp
  · exact .inr ⟨b', ha⟩
  · rw [hcb] at hcb'
    cases hcb'

section Steps

variable {s s' : EventState}

/-- An operation of the program. Where it gives a registered object its block,
the library is told to write that object's buffer, and `BindsAlone` says that
no other object is registered with a block for the number and that no queued
event lies elsewhere. -/
theorem routed_ruby {a : Action} (hfly : Flying s) (h : Routed s)
    (halone : BindsAlone s (.ruby a)) (hstep : step s.chan a = some s'.chan)
    (hfl : s'.flights = s.flights) : Routed s' := by
  have hch := change_of_step hstep
  -- an entry whose object has a block is an old entry
  have hentry : ∀ n p, s'.chan.registry.lookup (int2fix n) = some p →
      s'.chan.blockOf p ≠ none → s.chan.registry.lookup (int2fix n) = some p := by
    intro n p hk hp
    rcases hch.entry_old hk with hk | ⟨args, u, -, -, -, -, -, ho⟩
    · exact hk
    · exact absurd (blockOf_of_some ho) hp
  constructor
  · intro n o p hn hk hp
    have hk₀ := hentry n p hk hp
    obtain ⟨ch₀, u, hp₀, -, hchr, hnum⟩ := hfly.keyed.entry _ p hk₀
    have hpn : ch₀.channelNum = n := by
      rw [hnum]
      exact Except.ok.inj (hchr.symm.trans (num2chr_int2fix n))
    rcases hch.block_old hp with hp | ⟨b, rfl⟩
    · rcases hch.pointer_old hn with ⟨hn, -⟩ | ⟨b, ch, rfl, ho, hnum, -⟩
      · exact h.fn n o p hn hk₀ hp
      · have hb := halone n (by rw [State.numberOf, ho, Option.map_some, hnum]; rfl) p hk₀
        split at hb
        · assumption
        · exact absurd hb hp
    · -- the block of `p` was just set, and the library given its buffer
      obtain ⟨ch, ho, -, -, hfn⟩ := hch.of_onEvent
      rw [hp₀, Option.some.injEq] at ho
      rw [hfn, ← ho, hpn, Function.update_self, Option.some.injEq] at hn
      exact hn
  · intro k e p hk hreg hp
    rw [hfl] at hk
    have hreg₀ := hentry e.ucANTChannel p hreg hp
    rcases hch.block_old hp with hp | ⟨b, rfl⟩
    · exact h.queued k e p hk hreg₀ hp
    · obtain ⟨ch₀, u, hp₀, -, hchr, hnum⟩ := hfly.keyed.entry _ p hreg₀
      have hpn : ch₀.channelNum = e.ucANTChannel := by
        rw [hnum]
        exact Except.ok.inj (hchr.symm.trans (num2chr_int2fix e.ucANTChannel))
      have hb := halone e.ucANTChannel
        (by rw [State.numberOf, hp₀, Option.map_some, hpn]; rfl) p hreg₀
      rw [if_pos rfl] at hb
      exact (hb k (hfly.bound k _ hk) _ hk rfl rfl).symm
  · intro k e o tx hk
    rw [hfl] at hk
    exact h.ptr k e o tx hk
  · intro k e ch' hk ho'
    rw [hfl] at hk
    rcases hch.object_old ho' with ⟨ch, ho, -, hbuf, -⟩ | ⟨heq, -⟩
    · rw [hbuf]
      exact h.intact k e ch hk ho
    · exact absurd heq (Nat.ne_of_lt (hfly.target k _ hk).1)

/-- A new event is written to the buffer of the number's event function, which
is the registered object if that has a block; the buffer had no event in
flight, so the bytes of the others stay. -/
theorem routed_reported {n ucEvent : UInt8} {bytes : EventBytes} {o : ObjId} {ch : ChannelObject}
    (hfly : Flying s) (h : Routed s) (hfn : s.chan.library.eventFn n = some o)
    (hbusy : s.busy o = false) (ho : s.chan.objects o = some ch)
    (hchan : s'.chan = s.chan.setObject o { ch with buffer := ch.buffer.write bytes })
    (hfl : s'.flights = Function.update s.flights s.nextEvent
      (some ⟨⟨n, ucEvent, o, bytes⟩, .queued⟩)) : Routed s' := by
  have hshape : SameShape s.chan s'.chan := hchan ▸ sameShape_setObject ho rfl rfl
  have hflight : ∀ k f, s'.flights k = some f →
      f = ⟨⟨n, ucEvent, o, bytes⟩, .queued⟩ ∨ s.flights k = some f := by
    intro k f hk
    rw [hfl] at hk
    by_cases hkn : k = s.nextEvent
    · subst hkn
      rw [Function.update_self, Option.some.injEq] at hk
      exact .inl hk.symm
    · rw [Function.update_of_ne hkn] at hk
      exact .inr hk
  constructor
  · intro m q p hn hk hp
    rw [hshape.library] at hn
    rw [hshape.registry] at hk
    rw [hshape.blockOf] at hp
    exact h.fn m q p hn hk hp
  · intro k e p hk hreg hp
    rw [hshape.registry] at hreg
    rw [hshape.blockOf] at hp
    rcases hflight k _ hk with heq | hk
    · cases heq
      exact h.fn n o p hfn hreg hp
    · exact h.queued k e p hk hreg hp
  · intro k e q tx hk
    rcases hflight k _ hk with heq | hk
    · cases heq
    · exact h.ptr k e q tx hk
  · intro k e ch' hk hobj
    rw [hchan] at hobj
    rcases update_cases hobj with ⟨hbuf, hch⟩ | ⟨hne, hobj⟩
    · rcases hflight k _ hk with heq | hk
      · cases heq
        rw [← Option.some.inj hch]
        exact Bytes.take_overlay ..
      · exact absurd hbuf (hfly.not_busy hbusy hk)
    · rcases hflight k _ hk with heq | hk
      · cases heq
        exact absurd rfl hne
      · exact h.intact k e ch' hk hobj

/-- No new event, and the queued ones keep their buffers: a handler runs,
looks a number up, or has its block end. A block that ends clears the buffer
of its own object, where nothing else is in flight. -/
theorem routed_handled (h : Routed s) (hshape : SameShape s.chan s'.chan)
    (hfl : ∀ k f, s'.flights k = some f → s.flights k = some f ∨
      ∃ tx, f.phase = .running f.event.buffer tx)
    (hbuf : ∀ k e, s.flights k = some ⟨e, .queued⟩ → s'.flights k = some ⟨e, .queued⟩ →
      s'.chan.objects e.buffer = s.chan.objects e.buffer) : Routed s' := by
  have hold : ∀ k e, s'.flights k = some ⟨e, .queued⟩ → s.flights k = some ⟨e, .queued⟩ := by
    intro k e hk
    rcases hfl k _ hk with hk | ⟨tx, hph⟩
    · exact hk
    · cases hph
  constructor
  · intro m q p hn hk hp
    rw [hshape.library] at hn
    rw [hshape.registry] at hk
    rw [hshape.blockOf] at hp
    exact h.fn m q p hn hk hp
  · intro k e p hk hreg hp
    rw [hshape.registry] at hreg
    rw [hshape.blockOf] at hp
    exact h.queued k e p (hold k e hk) hreg hp
  · intro k e q tx hk
    rcases hfl k _ hk with hk | ⟨tx', hph⟩
    · exact h.ptr k e q tx hk
    · exact (Phase.running.inj hph).1
  · intro k e ch' hk hobj
    rw [hbuf k e (hold k e hk) hk] at hobj
    exact h.intact k e ch' (hold k e hk) hobj

/-- An event whose block starts to run, with the object that its buffer belongs to. -/
theorem running_of_update {k j : Nat} {e : Event} {tx : Bool} {f : Flight}
    (hj : Function.update s.flights k (some ⟨e, .running e.buffer tx⟩) j = some f) :
    s.flights j = some f ∨ ∃ tx, f.phase = .running f.event.buffer tx := by
  rcases update_cases hj with ⟨-, hf⟩ | ⟨-, hj⟩
  · rw [Option.some.injEq] at hf
    exact .inr ⟨tx, by rw [← hf]⟩
  · exact .inl hj

/-- **Step.** Every step whose `on_event` keeps `BindsAlone` leaves the events
where the registered objects read them. The cases are an operation of the
program, a report, and the steps of a handler. -/
theorem routed_step {a : EventAction} (hfly : Flying s) (h : Routed s)
    (halone : BindsAlone s a) (hs : eventStep s a = some s') : Routed s' := by
  have hch := change_of_eventStep hs
  generalize observe s a = ob at hch
  cases hch with
  | ruby a hpin hchan hfl hnext => exact routed_ruby hfly h halone hchan hfl
  | reported n ucEvent bytes o ch hfn hbusy ho hchan hfl hnext =>
    exact routed_reported hfly h hfn hbusy ho hchan hfl
  | fetchFailed k e hk hreg heq | txMissing k e o hk hreg heq =>
    subst heq
    refine routed_handled h (.refl _) (fun j f hj => ?_) fun _ _ _ _ => rfl
    obtain ⟨-, hj⟩ := of_update hj (by simp)
    exact .inl hj
  | noBlock k e o ch hk hreg ho hcb heq =>
    subst heq
    refine routed_handled h (sameShape_setObject ho rfl rfl) (fun j f hj => ?_) ?_
    · obtain ⟨-, hj⟩ := of_update hj (by simp)
      exact .inl hj
    · -- an object without a block has no event in its buffer
      intro j e' hj _
      have hne : e'.buffer ≠ o := by
        rintro rfl
        exact ((hfly.target j _ hj).2 ch ho).2 hcb
      exact Function.update_of_ne hne ..
  | called k e o ch b hk hreg ho hcb heq =>
    subst heq
    obtain rfl : o = e.buffer :=
      h.queued k e o hk hreg (by rw [blockOf_of_some ho, hcb]; simp)
    exact routed_handled h (.refl _) (fun j f hj => running_of_update hj) fun _ _ _ _ => rfl
  | txFound k e o p hk hreg heq =>
    subst heq
    obtain rfl : o = e.buffer := h.ptr k e o true hk
    exact routed_handled h (.refl _) (fun j f hj => running_of_update hj) fun _ _ _ _ => rfl
  | finished k r e o ch hk ho heq =>
    subst heq
    have hshape : SameShape s.chan (s.chan.setObject o (ch.afterBlock r)) := by
      cases r <;> exact sameShape_setObject ho rfl rfl
    refine routed_handled h hshape (fun j f hj => ?_) ?_
    · obtain ⟨-, hj⟩ := of_update hj (by simp)
      exact .inl hj
    · -- the buffer cleared is that of the event that is over
      intro j e' hj hj'
      have hjk : j ≠ k := by
        rintro rfl
        simp [EventState.land] at hj'
      have hne : e'.buffer ≠ o := by
        rw [h.ptr k e o false hk]
        exact fun hbuf => hjk (hfly.alone j k _ _ hj hk hbuf)
      exact Function.update_of_ne hne ..

/-- What a step that is not refused observes is routed right. -/
theorem routedRight_observe {a : EventAction} (h : Routed s) (hs : eventStep s a = some s') :
    ∀ ob ∈ observe s a, RoutedRight ob := by
  have hch := change_of_eventStep hs
  intro ob hob
  rw [hob] at hch
  cases hch with
  | called k e o ch b hk hreg ho hcb heq =>
    obtain rfl := h.queued k e o hk hreg (by rw [blockOf_of_some ho, hcb]; simp)
    exact ⟨rfl, h.intact k e ch hk ho⟩
  | _ => trivial

end Steps

-- ---------------------------------------------------------------------------
-- Runs
-- ---------------------------------------------------------------------------

section Runs

variable {as : List EventAction} {s : EventState} {log : List Observation}

/-- **Run.** The invariants together, with all that was seen on the way. -/
theorem routed_exec
    (hrun : Lts.Exec (Lts.logged eventStep observe) (fun x a => BindsAlone x.1 a)
      (eventInit, []) as (s, log)) :
    Flying s ∧ Routed s ∧ ∀ ob ∈ log, RoutedRight ob := by
  refine hrun.invariant (I := fun x => Flying x.1 ∧ Routed x.1 ∧ ∀ ob ∈ x.2, RoutedRight ob) ?_
    ⟨flying_init, routed_init, List.forall_mem_nil _⟩
  rintro ⟨t, l⟩ a ⟨t', l'⟩ ⟨hfly, hrouted, hlog⟩ halone hs
  obtain ⟨hstep, rfl⟩ := Lts.logged_eq_some.mp hs
  refine ⟨flying_step hfly hstep, routed_step hfly hrouted halone hstep, ?_⟩
  intro ob hob
  rcases List.mem_append.mp hob with hob | hob
  · exact hlog ob hob
  · exact routedRight_observe hrouted hstep ob (Option.mem_toList.mp hob)

/-- **Event routing.** In every run whose `on_event` calls keep `BindsAlone`,
each block that is called is the block of the object whose buffer received the
event, and the string it is given starts with the event's bytes. -/
theorem events_routed
    (hrun : Lts.Exec (Lts.logged eventStep observe) (fun x a => BindsAlone x.1 a)
      (eventInit, []) as (s, log)) :
    ∀ ob ∈ log, RoutedRight ob :=
  (routed_exec hrun).2.2

end Runs

/-- The object 0 is assigned the number 0 and given a block; an event arrives. -/
def boundEvent : List EventAction :=
  [.ruby (.assignChannel ⟨.int 0, .int 0, .nil, .nil, .nil⟩ true),
    .ruby (.onEvent 0 (some (.proc 0))), .report 0 eventRxBroadcast ⟨[7, 8], by decide⟩, .start 0]

/-- One object, one block, one event. -/
theorem events_routed_boundEvent : ∃ s data,
    Lts.Exec (Lts.logged eventStep observe) (fun x a => BindsAlone x.1 a) (eventInit, [])
      boundEvent
      (s, [.called 0 ⟨0, eventRxBroadcast, 0, ⟨[7, 8], by decide⟩⟩ 0 (.proc 0) data]) ∧
    data.take 2 = [7, 8] := by
  have hrun : (Lts.runIf (Lts.logged eventStep observe) (fun x a => decide (BindsAlone x.1 a))
      (eventInit, []) boundEvent).map Prod.snd =
      some [.called 0 ⟨0, eventRxBroadcast, 0, ⟨[7, 8], by decide⟩⟩ 0 (.proc 0)
        ([7, 8] ++ List.replicate 42 0)] := by
    decide +kernel
  obtain ⟨⟨s, log⟩, hexec, rfl⟩ := Lts.exec_of_checked hrun
  exact ⟨s, _, hexec,
    (routedRight_called.mp (events_routed hexec _ (List.mem_singleton.mpr rfl))).2⟩

/-- A channel is given a block, the system reset, its number assigned again
and that object given a block; then the old object's `on_event` is called once
more. -/
def lateBinding : List EventAction :=
  [.ruby (.assignChannel ⟨.int 0, .int 0, .nil, .nil, .nil⟩ true),
    .ruby (.onEvent 0 (some (.proc 0))), .ruby .reset,
    .ruby (.assignChannel ⟨.int 0, .int 0, .nil, .nil, .nil⟩ true),
    .ruby (.onEvent 1 (some (.proc 1))), .ruby (.onEvent 0 (some (.proc 0))),
    .report 0 eventRxBroadcast ⟨[7, 8], by decide⟩, .start 0]

/-- **A misrouted event.** It lies in the buffer of object 0, to which the
last `on_event` has pointed the library; the block of object 1, which the
registry holds, is called, with zeros. -/
theorem lateBinding_misroutes : ∃ s log,
    Lts.Exec (Lts.logged eventStep observe) Lts.Any (eventInit, []) lateBinding (s, log) ∧
    log = [.called 0 ⟨0, eventRxBroadcast, 0, ⟨[7, 8], by decide⟩⟩ 1 (.proc 1)
      (List.replicate 44 0)] ∧
    ¬ ∀ ob ∈ log, RoutedRight ob := by
  have hrun : (Lts.runIf (Lts.logged eventStep observe) (fun _ _ => true)
      (eventInit, []) lateBinding).map Prod.snd =
      some [.called 0 ⟨0, eventRxBroadcast, 0, ⟨[7, 8], by decide⟩⟩ 1 (.proc 1)
        (List.replicate 44 0)] := by
    decide +kernel
  obtain ⟨⟨s, log⟩, hexec, rfl⟩ := Lts.exec_of_computed hrun
  refine ⟨s, _, hexec, rfl, fun h => ?_⟩
  exact absurd (routedRight_called.mp (h _ (List.mem_singleton.mpr rfl))).1 (by decide)

-- ---------------------------------------------------------------------------
-- Every other binding can misroute an event
-- ---------------------------------------------------------------------------

section Misrouting

variable {s s' : EventState}

/-- A queued event calls the block of an object whose buffer it was not written to. -/
theorem canObserve_misrouted {k : Nat} {e : Event} {p : ObjId} {ch : ChannelObject} {b : Block}
    (hk : s.flights k = some ⟨e, .queued⟩)
    (hreg : s.chan.registry.lookup (int2fix e.ucANTChannel) = some p)
    (hp : s.chan.objects p = some ch) (hcb : ch.callback = some b) (hne : p ≠ e.buffer) :
    Lts.CanObserve eventStep observe (fun ob => ¬ RoutedRight ob) s := by
  obtain ⟨hstart, hobs⟩ := start_of_block hk hreg hp hcb
  exact .now hstart hobs fun hr => hne (routedRight_called.mp hr).1

/-- **No weaker condition will do.** After any `on_event` that breaks
`BindsAlone` some continuation calls a block for an event written into another
object's buffer: one that waits already, or the next one that the library
reports for the number. -/
theorem misbinding_misroutes {as : List EventAction} {log : List Observation} {a : EventAction}
    (hrun : Lts.Exec (Lts.logged eventStep observe) (fun x a => BindsAlone x.1 a)
      (eventInit, []) as (s, log))
    (hs : eventStep s a = some s') (hbad : ¬ BindsAlone s a) :
    ∃ bs t log', Lts.Exec (Lts.logged eventStep observe) Lts.Any (s', []) bs (t, log') ∧
      ∃ ob ∈ log', ¬ RoutedRight ob := by
  refine Lts.CanObserve.exists_exec ?_ []
  obtain ⟨hfly, h, -⟩ := routed_exec hrun
  unfold BindsAlone at hbad
  split at hbad
  · rename_i o b
    simp only [not_forall] at hbad
    obtain ⟨n, hn, p, hp, hbad⟩ := hbad
    have hs₀ := change_of_eventStep hs
    generalize observe s _ = ob at hs₀
    cases hs₀ with
    | ruby _ hpin hchan hfl hnext =>
      obtain ⟨ch, ho, hobj, hreg, hfn⟩ := (change_of_step hchan).of_onEvent
      have hnum : ch.channelNum = n := by
        rw [State.numberOf, ho] at hn
        exact Option.some.inj hn
      have hp' : s'.chan.registry.lookup (int2fix n) = some p := by rw [hreg]; exact hp
      have ho' : s'.chan.objects o = some { ch with callback := some b } := by
        rw [hobj, Function.update_self]
      split at hbad
      · -- a queued event of another buffer
        rename_i hpo
        subst hpo
        simp only [not_forall] at hbad
        obtain ⟨k, hlt, ⟨e, ph⟩, hk, rfl, rfl, hbuf⟩ := hbad
        have hk' : s'.flights k = some ⟨e, .queued⟩ := by rw [hfl]; exact hk
        exact canObserve_misrouted hk' hp' ho' rfl (Ne.symm hbuf)
      · -- a registered object with a block, another one than the library's
        rename_i hpo
        obtain ⟨b', hb'⟩ := Option.ne_none_iff_exists'.mp hbad
        obtain ⟨ch', hch', hcb'⟩ := Option.bind_eq_some_iff.mp hb'
        have hpobj : s'.chan.objects p = some ch' := by
          rw [hobj, Function.update_of_ne hpo, hch']
        have hfn' : s'.chan.library.eventFn n = some o := by
          rw [hfn, hnum, Function.update_self]
        have hfly' := flying_step hfly hs
        refine canObserve_of_report hfly' hfn' (fun j e ph hj hbuf => ?_)
          fun t k e hsame hk hen hbuf => ?_
        · -- the event in the buffer of `o` is in its block
          have hen : e.ucANTChannel = n := by
            rw [← ((hfly'.target j _ hj).2 _ (hbuf ▸ ho')).1, ← hnum]
          have hj₀ : s.flights j = some ⟨e, ph⟩ := by rw [← hfl]; exact hj
          cases ph with
          | queued =>
            exact absurd ((h.queued j e p hj₀ (hen ▸ hp) hbad).trans hbuf) hpo
          | running q tx =>
            refine ⟨tx, by rw [h.ptr j e q tx hj₀, hbuf], fun _ => ?_⟩
            rw [hen, hp']
            simp
        · obtain ⟨ch'', hp'', -, hcb''⟩ := hsame.kept p ch' hpobj
          refine canObserve_misrouted hk ?_ hp'' (hcb''.trans hcb') (hbuf ▸ hpo)
          rw [hsame.registry, hen, hp']
  · exact absurd trivial hbad

end Misrouting

end AntWireless.Channel
