import AntWireless.Callbacks.Handshake
import AntWireless.Channel.Events
import AntWireless.Lib.Interleave
import AntWireless.Response.Session

/-!
# AntWireless — the extension as a whole

The receive thread of the library calls the event function or the response function, which
put what they were told on their stack and call `rant_callback`. The dispatcher starts a
thread, which calls `rant_channel_call_event_callback` or `rant_call_response_callback` with
it, and that calls a block. The program, the collector and all these threads interleave.

* `State`, `Action`, `step` — the callback protocol with the functions it runs, the channels
  and the responses.
* `observe`, `abstraction` — the events and the responses of a run, and how far they have
  come.
* `OneAtATime` — the specification: events and responses side by side, one after the other.
-/

namespace AntWireless.Extension

open Callbacks (NodePtr HandlerAt)
open Channel (Event EventState EventAction Flight ObjId EventBytes fetchChannel)
open Response (ResponseBlock ResponseMessage DeviceInfo Session SessionAction)

-- ---------------------------------------------------------------------------
-- The state
-- ---------------------------------------------------------------------------

/-- What `callback->data` points to, on the stack of the receive thread. -/
inductive Frame
  -- `struct on_event_call` of the `k`-th event
  | event (k : Nat) (e : Event)
  -- `struct on_response_call`
  | response (m : ResponseMessage)

/-- How far a thread has come in `callback->fn`. -/
inductive Body
  -- in the block of the object `ptr`; `tx`: `on_event_tx` has not looked it up yet
  | block (ptr : ObjId) (tx : Bool)
  -- in the response callback
  | responding
  -- about to return or to raise
  | ended (r : FnResult)
  deriving DecidableEq, Repr

/-- The protocol, the channels, what `Ant.on_response` and the response
handlers set, and the stacks: `frames n` is where the node `n` points, `bodies
(n, i)` is handler `i` of `n`. -/
structure State where
  proto : Callbacks.State
  chan : Channel.State
  callback : Option ResponseBlock
  assigned : Bool
  pucResponseBuffer : List UInt8
  info : DeviceInfo
  frames : NodePtr → Option Frame
  bodies : NodePtr × Nat → Option Body
  nextEvent : Nat

def init : State where
  proto := Callbacks.init
  chan := Channel.init
  callback := none
  assigned := false
  pucResponseBuffer := Response.initialResponseBuffer
  info := Response.noInfo
  frames _ := none
  bodies _ := none
  nextEvent := 0

namespace State

/-- What there is of the responses, while `call` is being handled. -/
def session (x : State) (call : Option ResponseMessage) : Session :=
  ⟨x.callback, x.assigned, x.pucResponseBuffer, call, x.info⟩

/-- A thread is in a block of the object, and keeps it alive from its stack. -/
def pinned (x : State) (t₀ : Nat) (o : ObjId) : Bool :=
  decide (∃ c < (x.proto.producers t₀).calls + 1,
    ∃ i < (x.proto.handlers ⟨t₀, c⟩).length, ∃ tx, x.bodies (⟨t₀, c⟩, i) = some (.block o tx))

/-- The action collects such an object. -/
def collectsPinned (x : State) (t₀ : Nat) : Channel.Action → Bool
  | .gc o => x.pinned t₀ o
  | _ => false

/-- The thread of handler `i` of `n` moves. -/
def setBody (x : State) (n : NodePtr) (i : Nat) (b : Body) : State :=
  { x with bodies := Function.update x.bodies (n, i) (some b) }

end State

-- ---------------------------------------------------------------------------
-- The callback functions
-- ---------------------------------------------------------------------------

/-- `rant_channel_call_event_callback` up to the call of the block. -/
def rantChannelCallEventCallback (c : Channel.State) (ucANTChannel ucEvent : UInt8) :
    Option (Channel.State × Body) :=
  match fetchChannel c ucANTChannel with
  | .error _ => some (c, .ended .raised)
  | .ok o =>
    (c.objects o).map fun ptr =>
      match ptr.callback with
      | none => (c.setObject o ptr.clearBuffer, .ended (.returned .nil))
      | some b => (c, .block o (b.looksUp ucEvent))

/-- `rant_call_response_callback` up to the end of what the callback stores. -/
def rantCallResponseCallback (x : State) (depth : Nat) (m : ResponseMessage) : DeviceInfo × Body :=
  match x.callback with
  | none => (x.info, .ended (.returned .nil))
  | some b =>
    (Response.callBlock depth x.chan x.info m
      (Response.rantCallResponseCallback x.pucResponseBuffer) b, .responding)

-- ---------------------------------------------------------------------------
-- Actions
-- ---------------------------------------------------------------------------

inductive Action
  -- an operation of the program on channels, or the collector
  | ruby (a : Channel.Action)
  -- `Ant.on_response`, with or without a block
  | onResponse (block : Option ResponseBlock)
  -- the library writes an event and calls `rant_channel_on_event_callback`
  | event (n ucEvent : UInt8) (bytes : EventBytes)
  -- the library writes a response and calls `rant_on_response_callback`
  | response (m : ResponseMessage)
  -- `callback->fn` is called, and comes to its block
  | enter (n : NodePtr) (i depth : Nat)
  -- `Ant::Channel.registry[ channel_num ]` in `on_event_tx`
  | lookupTx (n : NodePtr) (i : Nat)
  -- the block ends
  | finish (n : NodePtr) (i : Nat) (r : FnResult)
  -- `callback->fn` ends
  | leave (n : NodePtr) (i : Nat)
  -- any other step of `rant_callback`, `handle_callback` or the dispatcher
  | proto (a : Callbacks.Action)
  deriving DecidableEq, Repr

/-- A step of the protocol that is neither a call of `rant_callback` nor a
part of `callback->fn`. -/
def isInternal : Callbacks.Action → Bool
  | .call _ | .handlerRun _ _ | .handlerEnd _ _ _ => false
  | _ => true

/-- The step function; `t₀` is the receive thread. -/
def step (t₀ : Nat) (x : State) : Action → Option State
  | .ruby a =>
    if x.collectsPinned t₀ a = true then none
    else (Channel.step x.chan a).map fun c => { x with chan := c }
  | .onResponse block =>
    match Response.rantSOnResponse (x.session none) block with
    | .ok s => some { x with callback := s.callback, assigned := s.assigned }
    | .error _ => some x
  | .event n ucEvent bytes =>
    (x.chan.library.eventFn n).bind fun o =>
      (x.chan.objects o).bind fun ch =>
        (Callbacks.step x.proto (.call t₀)).map fun p =>
          { x with
            proto := p
            chan := x.chan.setObject o { ch with buffer := ch.buffer.write bytes }
            frames := Function.update x.frames (x.proto.current t₀)
              (some (.event x.nextEvent ⟨n, ucEvent, o, bytes⟩))
            nextEvent := x.nextEvent + 1 }
  | .response m =>
    if x.assigned = true then
      (Callbacks.step x.proto (.call t₀)).map fun p =>
        { x with
          proto := p
          pucResponseBuffer := Response.writeResponse x.pucResponseBuffer m
          frames := Function.update x.frames (x.proto.current t₀) (some (.response m)) }
    else none
  | .enter n i depth =>
    (Callbacks.step x.proto (.handlerRun n i)).bind fun p =>
      match x.frames n with
      | some (.event _ e) =>
        (rantChannelCallEventCallback x.chan e.ucANTChannel e.ucEvent).map fun y =>
          { x.setBody n i y.2 with proto := p, chan := y.1 }
      | some (.response m) =>
        let y := rantCallResponseCallback x depth m
        some { x.setBody n i y.2 with proto := p, info := y.1 }
      | none => none
  | .lookupTx n i =>
    if HandlerAt x.proto n i .running then
      match x.frames n, x.bodies (n, i) with
      | some (.event _ e), some (.block o true) =>
        match x.chan.registry.lookup (Channel.int2fix e.ucANTChannel) with
        -- `nil.send_broadcast_data` raises
        | none => some (x.setBody n i (.ended .raised))
        | some _ => some (x.setBody n i (.block o false))
      | _, _ => none
    else none
  | .finish n i r =>
    if HandlerAt x.proto n i .running then
      match x.bodies (n, i) with
      | some (.block o false) =>
        (x.chan.objects o).map fun ch =>
          { x.setBody n i (.ended r) with chan := x.chan.setObject o (ch.afterBlock r) }
      | some .responding => some (x.setBody n i (.ended r))
      | _ => none
    else none
  | .leave n i =>
    match x.bodies (n, i) with
    | some (.ended r) =>
      (Callbacks.step x.proto (.handlerEnd n i r)).map fun p => { x with proto := p }
    | _ => none
  | .proto a =>
    if isInternal a = true then (Callbacks.step x.proto a).map fun p => { x with proto := p }
    else none

/-- No abort is requested. -/
def Quiet (_ : State) (a : Action) : Prop := a ≠ .proto .unblockerCall

instance (x : State) (a : Action) : Decidable (Quiet x a) := inferInstanceAs (Decidable (_ ≠ _))

-- ---------------------------------------------------------------------------
-- The specification
-- ---------------------------------------------------------------------------

/-- No event and no response is being handled. -/
def Idle (y : EventState × Session) : Prop := (∀ k, y.1.flights k = none) ∧ y.2.call = none

/-- One at a time: an event or a response is reported when everything before
it is over. The handler of a response sees the channels as they are. -/
def OneAtATime (y : EventState × Session) : EventAction ⊕ SessionAction → Prop
  | .inl (.report ..) | .inr (.report _) => Idle y
  | .inr (.handle _ chan) => chan = y.1.chan
  | _ => True

/-- What a step does of the specification. -/
def observe (x : State) : Action → Option (EventAction ⊕ SessionAction)
  | .ruby a => some (.inl (.ruby a))
  | .onResponse block => some (.inr (.onResponse block))
  | .event n ucEvent bytes => some (.inl (.report n ucEvent bytes))
  | .response m => some (.inr (.report m))
  | .enter n _ depth =>
    match x.frames n with
    | some (.event k _) => some (.inl (.start k))
    | some (.response _) => some (.inr (.handle depth x.chan))
    | none => none
  | .lookupTx n _ =>
    match x.frames n with
    | some (.event k _) => some (.inl (.lookupTx k))
    | _ => none
  | .finish n i r =>
    match x.frames n, x.bodies (n, i) with
    | some (.event k _), some (.block _ _) => some (.inl (.finish k r))
    | _, _ => none
  | .leave _ _ | .proto _ => none

/-- The callback of the receive thread, and how far its function has come. -/
def State.job (x : State) (t₀ : Nat) : Option (Frame × Option Body) :=
  match Callbacks.phase x.proto t₀ with
  | .submitted c => (x.frames ⟨t₀, c⟩).map fun f => (f, none)
  | .running c => (x.frames ⟨t₀, c⟩).bind fun f => (x.bodies (⟨t₀, c⟩, 0)).map fun b => (f, some b)
  | _ => none

/-- The event that is being handled. -/
def flightOf : Frame × Option Body → Option (Nat × Flight)
  | (.event k e, none) => some (k, ⟨e, .queued⟩)
  | (.event k e, some (.block o tx)) => some (k, ⟨e, .running o tx⟩)
  | _ => none

/-- The response whose handler has not started. -/
def callOf : Frame × Option Body → Option ResponseMessage
  | (.response m, none) => some m
  | _ => none

/-- At most one event is in flight. -/
def flightsOf : Option (Nat × Flight) → Nat → Option Flight
  | none => fun _ => none
  | some (k, f) => Function.update (fun _ => none) k (some f)

def abstraction (t₀ : Nat) (x : State) : EventState × Session :=
  (⟨x.chan, flightsOf ((x.job t₀).bind flightOf), x.nextEvent⟩,
    x.session ((x.job t₀).bind callOf))

end AntWireless.Extension
