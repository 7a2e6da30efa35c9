import AntWireless.Channel.EventCallbacks
import AntWireless.Channel.Registry

/-!
# AntWireless — events on channels

The library writes an event into the buffer it was given for the channel number and
calls `rant_channel_on_event_callback`; later a handler thread runs
`rant_channel_call_event_callback`, which looks the number up in the registry, calls the
block of the object found there with that object's buffer, and clears the buffer. The
default handler of `EVENT_TX` looks the number up once more. Ruby code of the program
runs between any two of these steps.

* `EventState`, `EventAction`, `eventStep` — channel operations interleaved with events.
* `Observation`, `observe` — what the lookups find and what the blocks are given.
* `EventChange`, `Flying` — everything a step can do, and what it preserves.
-/

namespace AntWireless.Channel

-- ---------------------------------------------------------------------------
-- Calling the block
-- ---------------------------------------------------------------------------

/-- `rb_hash_fetch( registry, INT2FIX(n) )`. -/
def fetchChannel (s : State) (n : UInt8) : Except RubyError ObjId :=
  match s.registry.lookup (int2fix n) with
  | none => .error .keyError
  | some o => .ok o

/-- The string given to the block. -/
def RantChannel.eventData (ptr : RantChannel) : List UInt8 := ptr.buffer.bytes

/-- `MEMZERO( ptr->buffer, … )`. -/
def ChannelObject.clearBuffer (ch : ChannelObject) : ChannelObject :=
  { ch with buffer := Buffer.zero }

/-- The object after the block's call: an exception skips the `MEMZERO`. -/
def ChannelObject.afterBlock (ch : ChannelObject) : FnResult → ChannelObject
  | .returned _ => ch.clearBuffer
  | .raised => ch

/-- The block looks the channel up in `on_event_tx`. -/
def Block.looksUp (b : Block) (ucEvent : UInt8) : Bool :=
  b = .handleEventCallback ∧ Channel.handleEventCallback ucEvent = .ok (.send .onEventTx)

-- ---------------------------------------------------------------------------
-- Events in flight
-- ---------------------------------------------------------------------------

/-- An event: `struct on_event_call`, with the object whose buffer the library
wrote and the bytes it wrote there. -/
structure Event where
  ucANTChannel : UInt8
  ucEvent : UInt8
  buffer : ObjId
  bytes : EventBytes
  deriving DecidableEq, Repr

inductive Phase
  -- in `rant_callback`; `rant_channel_call_event_callback` has not started
  | queued
  -- in the block of the object `ptr`; `tx`: `on_event_tx` has not looked it up yet
  | running (ptr : ObjId) (tx : Bool)
  deriving DecidableEq, Repr

/-- A registry lookup for the event is still to come. -/
def Phase.awaitsLookup : Phase → Bool
  | .queued => true
  | .running _ tx => tx

structure Flight where
  event : Event
  phase : Phase
  deriving DecidableEq, Repr

/-- The channel objects with the events in flight, numbered as they were reported. -/
structure EventState where
  chan : State
  flights : Nat → Option Flight
  nextEvent : Nat

def eventInit : EventState := ⟨init, fun _ => none, 0⟩

namespace EventState

/-- The event is over: `rant_callback` returns. -/
def land (s : EventState) (k : Nat) : EventState :=
  { s with flights := Function.update s.flights k none }

/-- An event written to the object's buffer is in flight. -/
def busy (s : EventState) (o : ObjId) : Bool :=
  decide (∃ k < s.nextEvent, ∃ f ∈ s.flights k, f.event.buffer = o)

/-- A block of the object runs, and keeps the object alive from its stack. -/
def pinned (s : EventState) (o : ObjId) : Bool :=
  decide (∃ k < s.nextEvent, ∃ f ∈ s.flights k, ∃ tx, f.phase = .running o tx)

/-- The action collects such an object. -/
def collectsPinned (s : EventState) : Action → Bool
  | .gc o => s.pinned o
  | _ => false

end EventState

inductive EventAction
  -- an operation of the program, or the collector
  | ruby (a : Action)
  -- the library writes an event and calls the event function
  | report (n ucEvent : UInt8) (bytes : EventBytes)
  -- `rant_channel_call_event_callback` up to the call of the block
  | start (k : Nat)
  -- `Ant::Channel.registry[ channel_num ]` in `on_event_tx`
  | lookupTx (k : Nat)
  -- the block ends
  | finish (k : Nat) (r : FnResult)
  deriving DecidableEq, Repr

/-- The step function. The receive thread is inside `rant_callback` until an
event is over, so it does not write over an event in flight. -/
def eventStep (s : EventState) : EventAction → Option EventState
  | .ruby a =>
    if s.collectsPinned a = true then none
    else (step s.chan a).map fun c => { s with chan := c }
  | .report n ucEvent bytes =>
    (s.chan.library.eventFn n).bind fun o =>
      if s.busy o = true then none
      else
        (s.chan.objects o).map fun ch =>
          { chan := s.chan.setObject o { ch with buffer := ch.buffer.write bytes }
            flights := Function.update s.flights s.nextEvent
              (some ⟨⟨n, ucEvent, o, bytes⟩, .queued⟩)
            nextEvent := s.nextEvent + 1 }
  | .start k =>
    match s.flights k with
    | some ⟨e, .queued⟩ =>
      match fetchChannel s.chan e.ucANTChannel with
      | .error _ => some (s.land k)
      | .ok o =>
        (s.chan.objects o).map fun ch =>
          match ch.callback with
          | none => { s.land k with chan := s.chan.setObject o ch.clearBuffer }
          | some b =>
            { s with
              flights := Function.update s.flights k
                (some ⟨e, .running o (b.looksUp e.ucEvent)⟩) }
    | _ => none
  | .lookupTx k =>
    match s.flights k with
    | some ⟨e, .running o true⟩ =>
      match s.chan.registry.lookup (int2fix e.ucANTChannel) with
      -- `nil.send_broadcast_data` raises
      | none => some (s.land k)
      | some _ =>
        some { s with flights := Function.update s.flights k (some ⟨e, .running o false⟩) }
    | _ => none
  | .finish k r =>
    match s.flights k with
    | some ⟨_, .running o false⟩ =>
      (s.chan.objects o).map fun ch =>
        { s.land k with chan := s.chan.setObject o (ch.afterBlock r) }
    | _ => none

-- ---------------------------------------------------------------------------
-- Observations
-- ---------------------------------------------------------------------------

inductive Observation
  -- `rb_hash_fetch` raised a KeyError
  | fetchFailed (k : Nat) (e : Event)
  -- the object found has no block
  | noBlock (k : Nat) (e : Event)
  -- the block of `o` is called with `data`
  | called (k : Nat) (e : Event) (o : ObjId) (b : Block) (data : List UInt8)
  -- `on_event_tx` found `nil`
  | txMissing (k : Nat) (e : Event)
  | txFound (k : Nat) (e : Event) (o : ObjId)
  deriving DecidableEq, Repr

def observe (s : EventState) : EventAction → Option Observation
  | .start k =>
    match s.flights k with
    | some ⟨e, .queued⟩ =>
      match fetchChannel s.chan e.ucANTChannel with
      | .error _ => some (.fetchFailed k e)
      | .ok o =>
        (s.chan.objects o).map fun ch =>
          match ch.callback with
          | none => .noBlock k e
          | some b => .called k e o b ch.eventData
    | _ => none
  | .lookupTx k =>
    match s.flights k with
    | some ⟨e, .running _ true⟩ =>
      match s.chan.registry.lookup (int2fix e.ucANTChannel) with
      | none => some (.txMissing k e)
      | some o => some (.txFound k e o)
    | _ => none
  | _ => none

/-- A handler that finds an object with a block calls it, with the bytes that
the object's buffer has now. -/
theorem start_of_block {s : EventState} {k : Nat} {e : Event} {o : ObjId} {ch : ChannelObject}
    {b : Block} (hk : s.flights k = some ⟨e, .queued⟩)
    (hreg : s.chan.registry.lookup (int2fix e.ucANTChannel) = some o)
    (ho : s.chan.objects o = some ch) (hcb : ch.callback = some b) :
    eventStep s (.start k) = some { s with
        flights := Function.update s.flights k (some ⟨e, .running o (b.looksUp e.ucEvent)⟩) } ∧
      observe s (.start k) = some (.called k e o b ch.eventData) := by
  constructor
  · simp only [eventStep, hk, fetchChannel, hreg, ho, Option.map_some, hcb]
  · simp only [observe, hk, fetchChannel, hreg, ho, Option.map_some, hcb]

/-- `on_event_tx` finds the number in the registry, whatever object is there by now. -/
theorem lookupTx_of_registered {s : EventState} {k : Nat} {e : Event} {o p : ObjId}
    (hk : s.flights k = some ⟨e, .running o true⟩)
    (hreg : s.chan.registry.lookup (int2fix e.ucANTChannel) = some p) :
    eventStep s (.lookupTx k) = some { s with
        flights := Function.update s.flights k (some ⟨e, .running o false⟩) } ∧
      observe s (.lookupTx k) = some (.txFound k e p) := by
  constructor
  · simp only [eventStep, hk, hreg]
  · simp only [observe, hk, hreg]

-- ---------------------------------------------------------------------------
-- What a step can do
-- ---------------------------------------------------------------------------

/-- The changes a step from `s` to `s'` can make, with what it observes. -/
inductive EventChange (s s' : EventState) : EventAction → Option Observation → Prop
  | ruby (a : Action) (hpin : s.collectsPinned a = false)
      (hchan : step s.chan a = some s'.chan) (hfl : s'.flights = s.flights)
      (hnext : s'.nextEvent = s.nextEvent) : EventChange s s' (.ruby a) none
  | reported (n ucEvent : UInt8) (bytes : EventBytes) (o : ObjId) (ch : ChannelObject)
      (hfn : s.chan.library.eventFn n = some o) (hbusy : s.busy o = false)
      (ho : s.chan.objects o = some ch)
      (hchan : s'.chan = s.chan.setObject o { ch with buffer := ch.buffer.write bytes })
      (hfl : s'.flights = Function.update s.flights s.nextEvent
        (some ⟨⟨n, ucEvent, o, bytes⟩, .queued⟩))
      (hnext : s'.nextEvent = s.nextEvent + 1) :
      EventChange s s' (.report n ucEvent bytes) none
  | fetchFailed (k : Nat) (e : Event) (hk : s.flights k = some ⟨e, .queued⟩)
      (hreg : s.chan.registry.lookup (int2fix e.ucANTChannel) = none) (heq : s' = s.land k) :
      EventChange s s' (.start k) (some (.fetchFailed k e))
  | noBlock (k : Nat) (e : Event) (o : ObjId) (ch : ChannelObject)
      (hk : s.flights k = some ⟨e, .queued⟩)
      (hreg : s.chan.registry.lookup (int2fix e.ucANTChannel) = some o)
      (ho : s.chan.objects o = some ch) (hcb : ch.callback = none)
      (heq : s' = { s.land k with chan := s.chan.setObject o ch.clearBuffer }) :
      EventChange s s' (.start k) (some (.noBlock k e))
  | called (k : Nat) (e : Event) (o : ObjId) (ch : ChannelObject) (b : Block)
      (hk : s.flights k = some ⟨e, .queued⟩)
      (hreg : s.chan.registry.lookup (int2fix e.ucANTChannel) = some o)
      (ho : s.chan.objects o = some ch) (hcb : ch.callback = some b)
      (heq : s' = { s with
        flights := Function.update s.flights k (some ⟨e, .running o (b.looksUp e.ucEvent)⟩) }) :
      EventChange s s' (.start k) (some (.called k e o b ch.eventData))
  | txMissing (k : Nat) (e : Event) (o : ObjId) (hk : s.flights k = some ⟨e, .running o true⟩)
      (hreg : s.chan.registry.lookup (int2fix e.ucANTChannel) = none) (heq : s' = s.land k) :
      EventChange s s' (.lookupTx k) (some (.txMissing k e))
  | txFound (k : Nat) (e : Event) (o p : ObjId) (hk : s.flights k = some ⟨e, .running o true⟩)
      (hreg : s.chan.registry.lookup (int2fix e.ucANTChannel) = some p)
      (heq : s' = { s with flights := Function.update s.flights k (some ⟨e, .running o false⟩) }) :
      EventChange s s' (.lookupTx k) (some (.txFound k e p))
  | finished (k : Nat) (r : FnResult) (e : Event) (o : ObjId) (ch : ChannelObject)
      (hk : s.flights k = some ⟨e, .running o false⟩) (ho : s.chan.objects o = some ch)
      (heq : s' = { s.land k with chan := s.chan.setObject o (ch.afterBlock r) }) :
      EventChange s s' (.finish k r) none

/-- **Inversion.** Every step is one of the changes, with what it shows: an
operation of the program, the library's write of a new event, a handler that
calls a block, finds none or finds no channel, a second lookup that succeeds
or fails, and the end of a block. -/
theorem change_of_eventStep {s s' : EventState} {a : EventAction}
    (h : eventStep s a = some s') : EventChange s s' a (observe s a) := by
  cases a with
  | ruby a =>
    rw [eventStep] at h
    split at h
    · cases h
    · rename_i hpin
      obtain ⟨c, hc, rfl⟩ := Option.map_eq_some_iff.mp h
      exact .ruby a (by simpa using hpin) hc rfl rfl
  | report n ucEvent bytes =>
    rw [eventStep] at h
    obtain ⟨o, hfn, h⟩ := Option.bind_eq_some_iff.mp h
    split at h
    · cases h
    · rename_i hbusy
      obtain ⟨ch, ho, rfl⟩ := Option.map_eq_some_iff.mp h
      exact .reported n ucEvent bytes o ch hfn (by simpa using hbusy) ho rfl rfl rfl
  | start k =>
    rw [eventStep] at h
    split at h
    · rename_i e hk
      simp only [observe, hk, fetchChannel] at h ⊢
      cases hreg : s.chan.registry.lookup (int2fix e.ucANTChannel) with
      | none =>
        rw [hreg] at h
        cases h
        exact .fetchFailed k e hk hreg rfl
      | some o =>
        simp only [hreg] at h ⊢
        obtain ⟨ch, ho, rfl⟩ := Option.map_eq_some_iff.mp h
        simp only [ho, Option.map_some]
        cases hcb : ch.callback with
        | none => exact .noBlock k e o ch hk hreg ho hcb rfl
        | some b => exact .called k e o ch b hk hreg ho hcb rfl
    · cases h
  | lookupTx k =>
    rw [eventStep] at h
    split at h
    · rename_i e o hk
      simp only [observe, hk] at h ⊢
      cases hreg : s.chan.registry.lookup (int2fix e.ucANTChannel) with
      | none =>
        rw [hreg] at h
        cases h
        exact .txMissing k e o hk hreg rfl
      | some p =>
        rw [hreg] at h
        cases h
        exact .txFound k e o p hk hreg rfl
    · cases h
  | finish k r =>
    rw [eventStep] at h
    split at h
    · rename_i e o hk
      obtain ⟨ch, ho, rfl⟩ := Option.map_eq_some_iff.mp h
      exact .finished k r e o ch hk ho rfl
    · cases h

-- ---------------------------------------------------------------------------
-- Frames
-- ---------------------------------------------------------------------------

/-- The states differ in the contents of buffers only. -/
structure SameShape (c c' : State) : Prop where
  nextId : c'.nextId = c.nextId
  registry : c'.registry = c.registry
  library : c'.library = c.library
  old : ∀ p ch', c'.objects p = some ch' → ∃ ch, c.objects p = some ch ∧
    ch'.channelNum = ch.channelNum ∧ ch'.callback = ch.callback
  kept : ∀ p ch, c.objects p = some ch → ∃ ch', c'.objects p = some ch' ∧
    ch'.channelNum = ch.channelNum ∧ ch'.callback = ch.callback

theorem SameShape.refl (c : State) : SameShape c c where
  nextId := rfl
  registry := rfl
  library := rfl
  old _ ch' hp := ⟨ch', hp, rfl, rfl⟩
  kept _ ch hp := ⟨ch, hp, rfl, rfl⟩

/-- Writing an object of the same number and with the same block back. -/
theorem sameShape_setObject {c : State} {o : ObjId} {ch ch' : ChannelObject}
    (ho : c.objects o = some ch) (hnum : ch'.channelNum = ch.channelNum)
    (hcb : ch'.callback = ch.callback) : SameShape c (c.setObject o ch') where
  nextId := rfl
  registry := rfl
  library := rfl
  old p ch'' hp := by
    rcases update_cases hp with ⟨rfl, hch⟩ | ⟨-, hp⟩
    · rw [Option.some.injEq] at hch
      exact ⟨ch, ho, hch ▸ hnum, hch ▸ hcb⟩
    · exact ⟨ch'', hp, rfl, rfl⟩
  kept p ch'' hp := by
    by_cases hpo : p = o
    · subst hpo
      rw [ho, Option.some.injEq] at hp
      exact ⟨ch', Function.update_self .., hp ▸ hnum, hp ▸ hcb⟩
    · exact ⟨ch'', (Function.update_of_ne hpo ..).trans hp, rfl, rfl⟩

/-- What the registry and the library rest on does not look into the buffers:
numbers, blocks and keys are as they were. -/
theorem Keyed.of_sameShape {c c' : State} (h : Keyed c) (hs : SameShape c c') : Keyed c' := by
  constructor
  · intro o ch' ho
    obtain ⟨ch, ho, -⟩ := hs.old o ch' ho
    rw [hs.nextId]
    exact h.fresh o ch ho
  · intro k o hk
    rw [hs.registry] at hk
    obtain ⟨ch, u, ho, hu, hchr, hnum⟩ := h.entry k o hk
    obtain ⟨ch', ho', hnum', -⟩ := hs.kept o ch ho
    exact ⟨ch', u, ho', hu, hchr, hnum'.trans hnum⟩
  · rw [hs.registry]
    exact h.oneKey
  · intro n o hn
    rw [hs.library] at hn
    obtain ⟨ch, ho, hnum, hcb⟩ := h.pointer n o hn
    obtain ⟨ch', ho', hnum', hcb'⟩ := hs.kept o ch ho
    exact ⟨ch', ho', hnum'.trans hnum, by rwa [hcb']⟩

section Frames

variable {s s' : EventState} {a : EventAction} {ob : Option Observation}

/-- A step is one of the program, or leaves the channels as they are but for buffers. -/
theorem EventChange.chan (h : EventChange s s' a ob) :
    (∃ b, a = .ruby b ∧ step s.chan b = some s'.chan) ∨ SameShape s.chan s'.chan := by
  cases h with
  | ruby a hpin hchan => exact .inl ⟨a, rfl, hchan⟩
  | reported n ucEvent bytes o ch hfn hbusy ho hchan =>
    rw [hchan]
    exact .inr (sameShape_setObject ho rfl rfl)
  | fetchFailed k e hk hreg heq => exact .inr (heq ▸ .refl _)
  | noBlock k e o ch hk hreg ho hcb heq => exact .inr (heq ▸ sameShape_setObject ho rfl rfl)
  | called k e o ch b hk hreg ho hcb heq => exact .inr (heq ▸ .refl _)
  | txMissing k e o hk hreg heq => exact .inr (heq ▸ .refl _)
  | txFound k e o p hk hreg heq => exact .inr (heq ▸ .refl _)
  | finished k r e o ch hk ho heq =>
    refine .inr (heq ▸ sameShape_setObject ho ?_ ?_)
    · cases r <;> rfl
    · cases r <;> rfl

/-- An event in flight after a step was in flight before, or is the one just
reported. That one waits, in the buffer registered for its number, which had
no event in flight, and has the next event number. -/
theorem EventChange.flight_old {k : Nat} {f' : Flight} (h : EventChange s s' a ob)
    (hk : s'.flights k = some f') :
    (∃ f, s.flights k = some f ∧ f.event = f'.event) ∨
      k = s.nextEvent ∧ s'.nextEvent = s.nextEvent + 1 ∧ f'.phase = .queued ∧
        s.chan.library.eventFn f'.event.ucANTChannel = some f'.event.buffer ∧
        s.busy f'.event.buffer = false ∧
        a = .report f'.event.ucANTChannel f'.event.ucEvent f'.event.bytes := by
  have hsame : ∀ {j : Nat} {v : Option Flight}, Function.update s.flights j v k = some f' →
      (∀ f, v = some f → ∃ g, s.flights j = some g ∧ g.event = f.event) →
      ∃ f, s.flights k = some f ∧ f.event = f'.event := by
    intro j v hv hold
    by_cases hj : k = j
    · subst hj
      rw [Function.update_self] at hv
      exact hold f' hv
    · rw [Function.update_of_ne hj] at hv
      exact ⟨f', hv, rfl⟩
  cases h with
  | ruby a hpin hchan hfl hnext => exact .inl ⟨f', hfl ▸ hk, rfl⟩
  | reported n ucEvent bytes o ch hfn hbusy ho hchan hfl hnext =>
    rw [hfl] at hk
    by_cases hj : k = s.nextEvent
    · subst hj
      rw [Function.update_self, Option.some.injEq] at hk
      subst hk
      exact .inr ⟨rfl, hnext, rfl, hfn, hbusy, rfl⟩
    · rw [Function.update_of_ne hj] at hk
      exact .inl ⟨f', hk, rfl⟩
  | fetchFailed j e hj hreg heq =>
    subst heq
    exact .inl (hsame hk nofun)
  | noBlock j e o ch hj hreg ho hcb heq =>
    subst heq
    exact .inl (hsame hk nofun)
  | called j e o ch b hj hreg ho hcb heq =>
    subst heq
    refine .inl (hsame hk ?_)
    rintro f ⟨rfl⟩
    exact ⟨_, hj, rfl⟩
  | txMissing j e o hj hreg heq =>
    subst heq
    exact .inl (hsame hk nofun)
  | txFound j e o p hj hreg heq =>
    subst heq
    refine .inl (hsame hk ?_)
    rintro f ⟨rfl⟩
    exact ⟨_, hj, rfl⟩
  | finished j r e o ch hj ho heq =>
    subst heq
    exact .inl (hsame hk nofun)

/-- Events are numbered in the order of their reports. -/
theorem EventChange.nextEvent_le (h : EventChange s s' a ob) : s.nextEvent ≤ s'.nextEvent := by
  cases h with
  | ruby a hpin hchan hfl hnext => exact hnext ▸ le_rfl
  | reported n ucEvent bytes o ch hfn hbusy ho hchan hfl hnext => exact hnext ▸ Nat.le_succ _
  | fetchFailed k e hk hreg heq => exact heq ▸ le_rfl
  | noBlock k e o ch hk hreg ho hcb heq => exact heq ▸ le_rfl
  | called k e o ch b hk hreg ho hcb heq => exact heq ▸ le_rfl
  | txMissing k e o hk hreg heq => exact heq ▸ le_rfl
  | txFound k e o p hk hreg heq => exact heq ▸ le_rfl
  | finished k r e o ch hk ho heq => exact heq ▸ le_rfl

end Frames

-- ---------------------------------------------------------------------------
-- The invariant
-- ---------------------------------------------------------------------------

/-- What every reachable state has: an event in flight was written for the
number of the object in whose buffer it lies, which has a block, and has the
buffer to itself. -/
structure Flying (s : EventState) : Prop where
  keyed : Keyed s.chan
  bound : ∀ k f, s.flights k = some f → k < s.nextEvent
  target : ∀ k f, s.flights k = some f → f.event.buffer < s.chan.nextId ∧
    ∀ ch, s.chan.objects f.event.buffer = some ch →
      ch.channelNum = f.event.ucANTChannel ∧ ch.callback ≠ none
  alone : ∀ j k f g, s.flights j = some f → s.flights k = some g →
    f.event.buffer = g.event.buffer → j = k

theorem flying_init : Flying eventInit where
  keyed := keyed_init
  bound _ _ h := nomatch h
  target _ _ h := nomatch h
  alone _ _ _ _ h := nomatch h

/-- An object whose buffer is not busy has no event in flight there. -/
theorem Flying.not_busy {s : EventState} (h : Flying s) {o : ObjId} (hbusy : s.busy o = false)
    {k : Nat} {f : Flight} (hk : s.flights k = some f) : f.event.buffer ≠ o := by
  intro ho
  refine of_decide_eq_false hbusy ⟨k, h.bound k f hk, f, hk, ho⟩

/-- **Step.** The library writes an event to the buffer that is registered for
its number, while nothing else is in flight there; an operation of the program
moves no event, and leaves the object with the event's number and with a
block. -/
theorem flying_step {s s' : EventState} {a : EventAction} (h : Flying s)
    (hs : eventStep s a = some s') : Flying s' := by
  have hch := change_of_eventStep hs
  have hkeyed : Keyed s'.chan := by
    rcases hch.chan with ⟨b, -, hstep⟩ | hshape
    · exact keyed_step h.keyed hstep
    · exact h.keyed.of_sameShape hshape
  -- what holds of the target of an event goes on holding
  have htarget : ∀ e : Event, (e.buffer < s.chan.nextId ∧
      ∀ ch, s.chan.objects e.buffer = some ch →
        ch.channelNum = e.ucANTChannel ∧ ch.callback ≠ none) →
      e.buffer < s'.chan.nextId ∧ ∀ ch, s'.chan.objects e.buffer = some ch →
        ch.channelNum = e.ucANTChannel ∧ ch.callback ≠ none := by
    rintro e ⟨hlt, hobj⟩
    rcases hch.chan with ⟨b, -, hstep⟩ | hshape
    · have hb := change_of_step hstep
      refine ⟨Nat.lt_of_lt_of_le hlt hb.nextId_le, fun ch' ho' => ?_⟩
      rcases hb.object_old ho' with ⟨ch, ho, hnum, -, -, hcb | ⟨b', -, hcb⟩⟩ | ⟨heq, -⟩
      · exact ⟨hnum.trans (hobj ch ho).1, hcb ▸ (hobj ch ho).2⟩
      · exact ⟨hnum.trans (hobj ch ho).1, by rw [hcb]; simp⟩
      · exact absurd heq (Nat.ne_of_lt hlt)
    · refine ⟨hshape.nextId ▸ hlt, fun ch' ho' => ?_⟩
      obtain ⟨ch, ho, hnum, hcb⟩ := hshape.old _ ch' ho'
      exact ⟨hnum.trans (hobj ch ho).1, hcb ▸ (hobj ch ho).2⟩
  constructor
  · exact hkeyed
  · intro k f' hk
    rcases hch.flight_old hk with ⟨f, hf, -⟩ | ⟨rfl, hnext, -⟩
    · exact Nat.lt_of_lt_of_le (h.bound k f hf) hch.nextEvent_le
    · rw [hnext]
      exact Nat.lt_succ_self _
  · intro k f' hk
    rcases hch.flight_old hk with ⟨f, hf, he⟩ | ⟨-, -, -, hfn, -⟩
    · exact he ▸ htarget f.event (h.target k f hf)
    · obtain ⟨ch, ho, hnum, hcb⟩ := h.keyed.pointer _ _ hfn
      refine htarget f'.event ⟨h.keyed.fresh _ ch ho, fun ch' ho' => ?_⟩
      rw [ho, Option.some.injEq] at ho'
      exact ho' ▸ ⟨hnum, hcb⟩
  · intro j k f' g' hj hk hbuf
    rcases hch.flight_old hj with ⟨f, hf, hef⟩ | ⟨rfl, -, -, -, hbusy, -⟩
    · rcases hch.flight_old hk with ⟨g, hg, heg⟩ | ⟨rfl, -, -, -, hbusy, -⟩
      · exact h.alone j k f g hf hg (by rw [hef, heg, hbuf])
      · exact absurd (hef ▸ hbuf) (h.not_busy hbusy hf)
    · rcases hch.flight_old hk with ⟨g, hg, heg⟩ | ⟨rfl, -⟩
      · exact absurd (heg ▸ hbuf.symm) (h.not_busy hbusy hg)
      · rfl

-- ---------------------------------------------------------------------------
-- Continuations
-- ---------------------------------------------------------------------------

section Continuations

variable {s : EventState}

/-- A running block can end by an exception, which leaves every buffer as it
is. If a lookup is still to come it comes first, and finds the number. What
can be seen after that can be seen now. -/
theorem canObserve_of_land {P : Observation → Prop} {k : Nat} {e : Event} {o : ObjId} {tx : Bool}
    {ch : ChannelObject} (hk : s.flights k = some ⟨e, .running o tx⟩)
    (ho : s.chan.objects o = some ch)
    (hreg : tx = true → s.chan.registry.lookup (int2fix e.ucANTChannel) ≠ none)
    (h : Lts.CanObserve eventStep observe P (s.land k)) :
    Lts.CanObserve eventStep observe P s := by
  have hsame : s.chan.setObject o ch = s.chan := by
    rw [State.setObject, ← ho, Function.update_eq_self]
  have hfinish : ∀ t : EventState, t.chan = s.chan → t.nextEvent = s.nextEvent →
      t.flights = Function.update s.flights k (some ⟨e, .running o false⟩) →
      eventStep t (.finish k .raised) = some (s.land k) := by
    rintro ⟨c, fl, n⟩ rfl rfl hfl
    have htk : fl k = some ⟨e, .running o false⟩ := by rw [show fl = _ from hfl]; simp
    simp only [eventStep, htk, ho, Option.map_some, ChannelObject.afterBlock, hsame]
    simp [EventState.land, show fl = _ from hfl]
  cases tx with
  | false =>
    refine .later (hfinish s rfl rfl ?_) h
    rw [← hk, Function.update_eq_self]
  | true =>
    obtain ⟨p, hp⟩ := Option.ne_none_iff_exists'.mp (hreg rfl)
    exact .later (lookupTx_of_registered hk hp).1 (.later (hfinish _ rfl rfl rfl) h)

/-- The library can report one more event for a number whose event function is
set, once the event in the buffer of its object is over. The event is the next
number in line, and lies in that object's buffer. -/
theorem canObserve_of_report {P : Observation → Prop} (hfly : Flying s) {n : UInt8} {o : ObjId}
    (hfn : s.chan.library.eventFn n = some o)
    (hrunning : ∀ j e ph, s.flights j = some ⟨e, ph⟩ → e.buffer = o → ∃ tx,
      ph = .running o tx ∧ (tx = true → s.chan.registry.lookup (int2fix e.ucANTChannel) ≠ none))
    (h : ∀ t k e, SameShape s.chan t.chan → t.flights k = some ⟨e, .queued⟩ →
      e.ucANTChannel = n → e.buffer = o → Lts.CanObserve eventStep observe P t) :
    Lts.CanObserve eventStep observe P s := by
  obtain ⟨ch, ho, -, -⟩ := hfly.keyed.pointer n o hfn
  have hfree : ∀ u : EventState, u.chan = s.chan → u.busy o = false →
      Lts.CanObserve eventStep observe P u := by
    intro u hu hbusy
    let bytes : EventBytes := ⟨[], Nat.zero_le _⟩
    let t : EventState :=
      { chan := s.chan.setObject o { ch with buffer := ch.buffer.write bytes }
        flights := Function.update u.flights u.nextEvent (some ⟨⟨n, eventTx, o, bytes⟩, .queued⟩)
        nextEvent := u.nextEvent + 1 }
    have hreport : eventStep u (.report n eventTx bytes) = some t := by
      simp [eventStep, hu, hfn, hbusy, ho, t]
    exact .later hreport
      (h t u.nextEvent _ (sameShape_setObject ho rfl rfl) (Function.update_self ..) rfl rfl)
  cases hbusy : s.busy o with
  | false => exact hfree s rfl hbusy
  | true =>
    obtain ⟨j, -, ⟨e, ph⟩, hj, hbuf⟩ := of_decide_eq_true hbusy
    obtain ⟨tx, rfl, htx⟩ := hrunning j e ph hj hbuf
    refine canObserve_of_land hj ho htx (hfree _ rfl (decide_eq_false ?_))
    rintro ⟨k, -, f, hk, hbuf'⟩
    obtain ⟨hkj, hk⟩ := of_update hk (by simp)
    exact hkj (hfly.alone k j f _ hk hj (hbuf'.trans hbuf.symm))

end Continuations

end AntWireless.Channel
