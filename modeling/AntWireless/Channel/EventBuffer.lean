import AntWireless.Channel.Events

/-!
# AntWireless — what an event's data string holds

The events of one channel, one after the other: the library writes the bytes of an event
at the start of the channel's buffer, the block is given the whole buffer, and the buffer
is cleared, unless the block's call ended by an exception.

* `handleEvent`, `eventRun` — the data strings of a run of events; `exec_eventRun` finds
  the same in the interleaved system.
* `eventRun_iff` — each is the event's own bytes and zeros exactly when no exception
  leaves a byte that the next event does not overwrite.
-/

namespace AntWireless.Channel

/-- An event and how the call of the block for it ends. -/
structure EventCall where
  ucEvent : UInt8
  bytes : EventBytes
  result : FnResult
  deriving DecidableEq, Repr

/-- The data string of one event, and the channel afterwards. -/
def handleEvent (ch : ChannelObject) (c : EventCall) : List UInt8 × ChannelObject :=
  let written := { ch with buffer := ch.buffer.write c.bytes }
  (written.eventData, written.afterBlock c.result)

/-- The data strings of a run of events. -/
def eventRun : ChannelObject → List EventCall → List (List UInt8)
  | _, [] => []
  | ch, c :: cs => (handleEvent ch c).1 :: eventRun (handleEvent ch c).2 cs

/-- A channel that was just assigned and given a block. -/
def newChannel (a : AssignArgs) (channelNumber : UInt16) (b : Block) : ChannelObject :=
  { initialized a channelNumber with callback := some b }

/-- The event's bytes, followed by zeros up to `MESG_MAX_SIZE`. -/
def EventCall.ownData (c : EventCall) : List UInt8 := c.bytes.bytes.rightpad mesgMaxSize 0

/-- If the call for `c` ended by an exception, the event `d` that follows
overwrites all bytes of `c` but zeros. -/
def LeavesNothing (c d : EventCall) : Prop :=
  c.result = .raised → ∀ b ∈ c.bytes.bytes.drop d.bytes.bytes.length, b = 0

-- ---------------------------------------------------------------------------
-- Exactness
-- ---------------------------------------------------------------------------

/-- The bytes of an event that stay in the buffer. -/
def EventCall.leftover (c : EventCall) : List UInt8 :=
  match c.result with
  | .returned _ => []
  | .raised => c.bytes.bytes

/-- The condition for two events in a row is about the first one's leftover. -/
theorem leavesNothing_iff (c d : EventCall) :
    LeavesNothing c d ↔ ∀ b ∈ c.leftover.drop d.bytes.bytes.length, b = 0 := by
  unfold LeavesNothing EventCall.leftover
  cases c.result <;> simp

/-- The data string of an event is its own bytes and zeros exactly if what
lies beyond them in the buffer is zeros. -/
theorem handleEvent_data {ch : ChannelObject} {old : List UInt8} (hold : old.length ≤ mesgMaxSize)
    (hbuf : ch.buffer.bytes = old.rightpad mesgMaxSize 0) (c : EventCall) :
    (handleEvent ch c).1 = c.ownData ↔ ∀ b ∈ old.drop c.bytes.bytes.length, b = 0 := by
  show Bytes.overlay c.bytes.bytes ch.buffer.bytes = _ ↔ _
  rw [hbuf]
  exact Bytes.overlay_rightpad_iff hold

/-- After an event whose data string is right, the buffer holds its leftover. -/
theorem handleEvent_buffer {ch : ChannelObject} {c : EventCall}
    (hdata : (handleEvent ch c).1 = c.ownData) :
    (handleEvent ch c).2.buffer.bytes = c.leftover.rightpad mesgMaxSize 0 := by
  unfold EventCall.leftover
  simp only [handleEvent] at hdata ⊢
  cases c.result with
  | returned v => rfl
  | raised => exact hdata

/-- One more event in front: its own data string must be right, and what it
leaves behind must not show in the next one's. The induction is on the events,
with the bytes that the buffer still holds from before. -/
theorem eventRun_cons_iff {old : List UInt8} (hold : old.length ≤ mesgMaxSize) (c : EventCall)
    (cs : List EventCall) {ch : ChannelObject}
    (hbuf : ch.buffer.bytes = old.rightpad mesgMaxSize 0) :
    eventRun ch (c :: cs) = (c :: cs).map EventCall.ownData ↔
      (∀ b ∈ old.drop c.bytes.bytes.length, b = 0) ∧ (c :: cs).IsChain LeavesNothing := by
  induction cs generalizing ch old c with
  | nil => simp [eventRun, handleEvent_data hold hbuf]
  | cons d cs ih =>
    have hleft : c.leftover.length ≤ mesgMaxSize := by
      unfold EventCall.leftover
      cases c.result with
      | returned v => exact Nat.zero_le _
      | raised => exact c.bytes.fits
    rw [eventRun, List.map_cons, List.cons.injEq, handleEvent_data hold hbuf,
      List.isChain_cons_cons, leavesNothing_iff]
    refine and_congr_right fun hzero => ?_
    exact ih hleft d (handleEvent_buffer ((handleEvent_data hold hbuf c).mpr hzero))

/-- **Event data.** On a channel that was just assigned, in every run of
events and however their blocks' calls end, each data string is the event's
own bytes and zeros if and only if each call that ends by an exception leaves
no byte but zeros beyond the length of the next event. -/
theorem eventRun_iff (a : AssignArgs) (channelNumber : UInt16) (b : Block)
    (calls : List EventCall) :
    eventRun (newChannel a channelNumber b) calls = calls.map EventCall.ownData ↔
      calls.IsChain LeavesNothing := by
  cases calls with
  | nil => simp [eventRun]
  | cons c cs =>
    have hbuf : (newChannel a channelNumber b).buffer.bytes =
        ([] : List UInt8).rightpad mesgMaxSize 0 := rfl
    rw [eventRun_cons_iff (Nat.zero_le _) c cs hbuf]
    simp

/-- **A leak.** `handle_event_callback` has no handler for the first event and
raises; the data of the second, shorter one ends with bytes of the first. -/
theorem unhandledEvent_leaks :
    handleEventCallback eventChannelActive =
      .error (.runtimeError "Unhandled channel event 15") ∧
    eventRun (newChannel ⟨.int 0, .int 0, .nil, .nil, .nil⟩ 0 .handleEventCallback)
      [⟨eventChannelActive, ⟨[1, 2, 3], by decide⟩, .raised⟩,
        ⟨eventRxFail, ⟨[9], by decide⟩, .returned .nil⟩] =
      [[1, 2, 3] ++ List.replicate 41 0, [9, 2, 3] ++ List.replicate 41 0] ∧
    (⟨eventRxFail, ⟨[9], by decide⟩, .returned .nil⟩ : EventCall).ownData =
      [9] ++ List.replicate 43 0 := by
  decide +kernel

-- ---------------------------------------------------------------------------
-- The same in the interleaved system
-- ---------------------------------------------------------------------------

/-- The channel `o` is registered and has the block `b`, the library writes
the events for `n` to its buffer, and no event is in flight there. -/
structure Serves (s : EventState) (n : UInt8) (o : ObjId) (ch : ChannelObject) (b : Block) :
    Prop where
  fn : s.chan.library.eventFn n = some o
  entry : s.chan.registry.lookup (int2fix n) = some o
  object : s.chan.objects o = some ch
  block : ch.callback = some b
  free : s.busy o = false

/-- The data string an observation shows. -/
def Observation.data : Observation → Option (List UInt8)
  | .called _ _ _ _ data => some data
  | _ => none

/-- The report of an event, its handler and the end of the block, one after
the other, are `handleEvent`: the string shown is that of the buffer when the
block is called, and the buffer afterwards is cleared or not as the block
returns or raises. -/
theorem exec_handleEvent {s : EventState} {n : UInt8} {o : ObjId} {ch : ChannelObject} {b : Block}
    (h : Serves s n o ch b) (c : EventCall) (l : List Observation) :
    ∃ as t log, Lts.Exec (Lts.logged eventStep observe) Lts.Any (s, l) as (t, log) ∧
      log.filterMap Observation.data = l.filterMap Observation.data ++ [(handleEvent ch c).1] ∧
      Serves t n o (handleEvent ch c).2 b := by
  let e : Event := ⟨n, c.ucEvent, o, c.bytes⟩
  let k := s.nextEvent
  let written : ChannelObject := { ch with buffer := ch.buffer.write c.bytes }
  let u (ph : Phase) : EventState :=
    { chan := s.chan.setObject o written
      flights := Function.update s.flights k (some ⟨e, ph⟩)
      nextEvent := k + 1 }
  let t : EventState :=
    { chan := s.chan.setObject o (handleEvent ch c).2
      flights := Function.update s.flights k none
      nextEvent := k + 1 }
  have huk : ∀ ph, (u ph).flights k = some ⟨e, ph⟩ := fun ph => Function.update_self ..
  have huo : ∀ ph, (u ph).chan.objects o = some written := fun ph => Function.update_self ..
  have hmove : ∀ ph ph', { u ph with
      flights := Function.update (u ph).flights k (some ⟨e, ph'⟩) } = u ph' := by
    intro ph ph'
    show EventState.mk _ (Function.update (Function.update _ _ _) _ _) _ = _
    rw [Function.update_idem]
  have hreport : eventStep s (.report n c.ucEvent c.bytes) = some (u .queued) := by
    simp [eventStep, h.fn, h.free, h.object, u, e, k, written]
  obtain ⟨hstart, hobs⟩ := start_of_block (huk .queued) h.entry (huo .queued) h.block
  rw [hmove] at hstart
  have hfinish : eventStep (u (.running o false)) (.finish k c.result) = some t := by
    simp only [eventStep, huk, huo, Option.map_some, EventState.land]
    simp [u, t, handleEvent, State.setObject, written]
  -- `on_event_tx` looks the channel up, and finds it
  have hlookup : ∀ tx l', ∃ as log, Lts.Exec (Lts.logged eventStep observe) Lts.Any
      (u (.running o tx), l') as (u (.running o false), log) ∧
      log.filterMap Observation.data = l'.filterMap Observation.data := by
    intro tx l'
    cases tx with
    | false => exact ⟨[], l', .nil, rfl⟩
    | true =>
      obtain ⟨hfound, hobs⟩ := lookupTx_of_registered (huk (.running o true)) h.entry
      rw [hmove] at hfound
      refine ⟨_, _, .single trivial (Lts.logged_eq_some.mpr ⟨hfound, rfl⟩), ?_⟩
      simp [hobs, Observation.data]
  obtain ⟨as, log, hrun, hlog⟩ :=
    hlookup (b.looksUp c.ucEvent) (l ++ [.called k e o b (handleEvent ch c).1])
  have h1 : Lts.logged eventStep observe (s, l) (.report n c.ucEvent c.bytes) =
      some (u .queued, l) :=
    Lts.logged_eq_some.mpr ⟨hreport, (List.append_nil l).symm⟩
  have h2 : Lts.logged eventStep observe (u .queued, l) (.start k) =
      some (u (.running o (b.looksUp c.ucEvent)), l ++ [.called k e o b (handleEvent ch c).1]) := by
    refine Lts.logged_eq_some.mpr ⟨hstart, ?_⟩
    rw [hobs]
    rfl
  have h3 : Lts.logged eventStep observe (u (.running o false), log) (.finish k c.result) =
      some (t, log) :=
    Lts.logged_eq_some.mpr ⟨hfinish, (List.append_nil log).symm⟩
  refine ⟨_, t, log, (((Lts.Exec.single trivial h1).snoc trivial h2).append hrun).snoc trivial h3,
    ?_, h.fn, h.entry, Function.update_self .., ?_, decide_eq_false ?_⟩
  · rw [hlog, List.filterMap_append]
    rfl
  · show (written.afterBlock c.result).callback = some b
    cases c.result <;> exact h.block
  · rintro ⟨j, hj, f, hf, hbuf⟩
    obtain ⟨hjk, hf⟩ := of_update hf (by simp)
    have hlt : j < s.nextEvent := lt_of_le_of_ne (Nat.lt_succ_iff.mp hj) hjk
    exact of_decide_eq_false h.free ⟨j, hlt, f, hf, hbuf⟩

/-- A run of events, each handled before the next one is reported, so that the
runs of `eventRun` are runs of the channel. -/
theorem exec_eventRun {n : UInt8} {o : ObjId} {b : Block} (calls : List EventCall)
    {s : EventState} {ch : ChannelObject} (h : Serves s n o ch b) (l : List Observation) :
    ∃ as t log, Lts.Exec (Lts.logged eventStep observe) Lts.Any (s, l) as (t, log) ∧
      log.filterMap Observation.data = l.filterMap Observation.data ++ eventRun ch calls := by
  induction calls generalizing s ch l with
  | nil => exact ⟨[], s, l, .nil, by simp [eventRun]⟩
  | cons c calls ih =>
    obtain ⟨as, t, log, hrun, hlog, ht⟩ := exec_handleEvent h c l
    obtain ⟨bs, v, log', hrun', hlog'⟩ := ih ht log
    refine ⟨_, v, log', hrun.append hrun', ?_⟩
    rw [hlog', hlog, eventRun, List.append_assoc, List.singleton_append]

end AntWireless.Channel
