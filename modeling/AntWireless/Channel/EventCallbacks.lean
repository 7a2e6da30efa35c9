import AntWireless.Defines
import AntWireless.Ruby

/-!
# AntWireless — the default event handlers (`Ant::Channel::EventCallbacks`)

`handle_event_callback` looks the event up in `HANDLER_METHODS` and calls the method
found there; an event without an entry raises, and one whose method is not defined is
only logged.
-/

namespace AntWireless.Channel

inductive EventHandler
  | onEventChannelClosed
  | onEventChannelCollision
  | onEventRxAcknowledged
  | onEventRxBroadcast
  | onEventRxBurstPacket
  | onEventRxExtAcknowledged
  | onEventRxExtBroadcast
  | onEventRxExtBurstPacket
  | onEventRxFail
  | onEventRxFailGoToSearch
  | onEventRxFlagAcknowledged
  | onEventRxFlagBroadcast
  | onEventRxFlagBurstPacket
  | onEventRxSearchTimeout
  | onEventTransferRxFailed
  | onEventTransferTxCompleted
  | onEventTransferTxFailed
  | onEventTransferTxStart
  | onEventTx
  deriving DecidableEq, Repr

/-- `HANDLER_METHODS`. -/
def handlerMethods : List (UInt8 × EventHandler) :=
  [(eventChannelClosed, .onEventChannelClosed),
    (eventChannelCollision, .onEventChannelCollision),
    (eventRxAcknowledged, .onEventRxAcknowledged),
    (eventRxBroadcast, .onEventRxBroadcast),
    (eventRxBurstPacket, .onEventRxBurstPacket),
    (eventRxExtAcknowledged, .onEventRxExtAcknowledged),
    (eventRxExtBroadcast, .onEventRxExtBroadcast),
    (eventRxExtBurstPacket, .onEventRxExtBurstPacket),
    (eventRxFail, .onEventRxFail),
    (eventRxFailGoToSearch, .onEventRxFailGoToSearch),
    (eventRxFlagAcknowledged, .onEventRxFlagAcknowledged),
    (eventRxFlagBroadcast, .onEventRxFlagBroadcast),
    (eventRxFlagBurstPacket, .onEventRxFlagBurstPacket),
    (eventRxSearchTimeout, .onEventRxSearchTimeout),
    (eventTransferRxFailed, .onEventTransferRxFailed),
    (eventTransferTxCompleted, .onEventTransferTxCompleted),
    (eventTransferTxFailed, .onEventTransferTxFailed),
    (eventTransferTxStart, .onEventTransferTxStart),
    (eventTx, .onEventTx)]

/-- `respond_to?` of a handler method; those for extended events are not defined. -/
def respondTo : EventHandler → Bool
  | .onEventRxExtAcknowledged | .onEventRxExtBroadcast | .onEventRxExtBurstPacket => false
  | _ => true

/-- What `handle_event_callback` calls: a handler method, or `log_event_callback`. -/
inductive EventDispatch
  | send (h : EventHandler)
  | log (h : EventHandler)
  deriving DecidableEq, Repr

/-- `handle_event_callback`. -/
def handleEventCallback (eventId : UInt8) : Except RubyError EventDispatch :=
  match handlerMethods.lookup eventId with
  | none => .error (.runtimeError ("Unhandled channel event " ++ toString eventId.toNat))
  | some h => .ok (if respondTo h then .send h else .log h)

/-- Exactly the events of `HANDLER_METHODS` are handled without an exception,
by their method or, where that is not defined, by the line in the log. -/
theorem handleEventCallback_isOk_iff (eventId : UInt8) :
    (∃ d, handleEventCallback eventId = .ok d) ↔ eventId ∈ handlerMethods.map Prod.fst := by
  unfold handleEventCallback
  cases h : handlerMethods.lookup eventId with
  | none =>
    rw [List.lookup_eq_none_iff] at h
    constructor
    · rintro ⟨d, hd⟩
      cases hd
    · intro hmem
      obtain ⟨entry, hentry, rfl⟩ := List.mem_map.mp hmem
      simpa using h entry hentry
  | some handler =>
    refine ⟨fun _ => ?_, fun _ => ⟨_, rfl⟩⟩
    obtain ⟨l₁, l₂, hl, -⟩ := List.lookup_eq_some_iff.mp h
    exact List.mem_map.mpr ⟨(eventId, handler), by rw [hl]; simp, rfl⟩

end AntWireless.Channel
