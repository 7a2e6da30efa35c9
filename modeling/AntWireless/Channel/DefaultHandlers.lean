import AntWireless.Channel.Delivery
import AntWireless.Channel.Inspect
import AntWireless.Channel.Receive
import AntWireless.Channel.Routing

/-!
# AntWireless — what the default event handlers do

The methods of `Ant::Channel::EventCallbacks`, from the number, the event and the data string
that the block gets to the lines in the log and the packets sent; and a received packet on its
way from the library to the log.

* `runEventCallback` — the lines, the library calls and the exception of
  `handle_event_callback`.
* `default_handlers` — which events raise, and what is sent.
* `receptions_logged` — each packet reported is logged once, with its own bytes, while the
  channels that events are reported for stay registered.
-/

namespace AntWireless.Channel

-- ---------------------------------------------------------------------------
-- The handlers
-- ---------------------------------------------------------------------------

/-- A line of the log: its text, or what is formatted into it. -/
inductive HandlerLine
  | warn (text : String)
  | ready (description : String)
  | event (line : EventLine)
  | eventCallback (channelNum eventId : UInt8) (handlerMethod : EventHandler) (dump : String)
  deriving DecidableEq, Repr

/-- A handler writes lines, may call the library, and may raise. -/
structure EventOutcome where
  lines : List HandlerLine
  calls : List SendCall
  raised : Option RubyError
  deriving DecidableEq, Repr

/-- A line at the level of warnings, with the channel number between two texts. -/
def warnChannel (before : String) (channelNum : UInt8) (after : String) : EventOutcome :=
  ⟨[.warn (before ++ toString channelNum.toNat ++ after)], [], none⟩

section Warnings

variable (channelNum : UInt8)

def onEventRxSearchTimeout := warnChannel "Search timeout on channel " channelNum "."

def onEventRxFail := warnChannel "Receive failed on channel " channelNum "."

def onEventTransferRxFailed := warnChannel "Receive failed on channel " channelNum "."

def onEventTransferTxCompleted := warnChannel "Transfer completed on channel " channelNum "."

def onEventTransferTxFailed := warnChannel "Transfer failed on channel " channelNum "."

def onEventChannelClosed := warnChannel "Channel " channelNum " was closed."

def onEventRxFailGoToSearch := warnChannel "Channel " channelNum " dropped; resume search."

def onEventChannelCollision := warnChannel "Channel collision on channel " channelNum "."

def onEventTransferTxStart := warnChannel "Burst transfer started on channel " channelNum "."

end Warnings

/-- The line that `on_event_tx` logs before it sends; `nil` has a description. -/
def readyLines (s : State) (channelNum : UInt8) : List HandlerLine :=
  match s.registryAt channelNum with
  | none => [.ready "nil"]
  | some (o, ch) =>
    match inspect s o ch with
    | .error _ => []
    | .ok description => [.ready description]

/-- A handler that sends. -/
def EventOutcome.ofSend (lines : List HandlerLine) (r : SendOutcome) : EventOutcome :=
  match r.value with
  | .ok _ => ⟨lines, r.calls, none⟩
  | .error e => ⟨lines, r.calls, some e⟩

/-- A handler of received data. -/
def EventOutcome.ofLogged (r : Logged) : EventOutcome := ⟨r.lines.map .event, [], r.raised⟩

/-- `public_send( handler_method, channel_num, data )`. -/
def sendEvent (s : State) (channelNum : UInt8) (data : List UInt8) : EventHandler → EventOutcome
  | .onEventChannelClosed => onEventChannelClosed channelNum
  | .onEventChannelCollision => onEventChannelCollision channelNum
  | .onEventRxAcknowledged => .ofLogged (.ofReport (onEventRxAcknowledged data))
  | .onEventRxBroadcast => .ofLogged (.ofReport (onEventRxBroadcast data))
  | .onEventRxBurstPacket => .ofLogged (.ofReport (onEventRxBurstPacket data))
  | .onEventRxFail => onEventRxFail channelNum
  | .onEventRxFailGoToSearch => onEventRxFailGoToSearch channelNum
  | .onEventRxFlagAcknowledged => .ofLogged (onEventRxFlagAcknowledged data)
  | .onEventRxFlagBroadcast => .ofLogged (onEventRxFlagBroadcast data)
  | .onEventRxFlagBurstPacket => .ofLogged (onEventRxFlagBurstPacket data)
  | .onEventRxSearchTimeout => onEventRxSearchTimeout channelNum
  | .onEventTransferRxFailed => onEventTransferRxFailed channelNum
  | .onEventTransferTxCompleted => onEventTransferTxCompleted channelNum
  | .onEventTransferTxFailed => onEventTransferTxFailed channelNum
  | .onEventTransferTxStart => onEventTransferTxStart channelNum
  | .onEventTx => .ofSend (readyLines s channelNum) (onEventTx s channelNum)
  -- not defined
  | .onEventRxExtAcknowledged | .onEventRxExtBroadcast | .onEventRxExtBurstPacket =>
    ⟨[], [], some .noMethodError⟩

/-- `log_event_callback`; `data[0..3]` has a line at most. -/
def logEventCallback (channelNum eventId : UInt8) (handlerMethod : EventHandler)
    (data : List UInt8) : EventOutcome :=
  match DataUtilities.hexdump (data.take 4) 8 with
  | .ok dump => ⟨[.eventCallback channelNum eventId handlerMethod dump], [], none⟩
  | .error e => ⟨[], [], some e⟩

/-- `handle_event_callback`, with what it calls. -/
def runEventCallback (s : State) (channelNum eventId : UInt8) (data : List UInt8) : EventOutcome :=
  match handleEventCallback eventId with
  | .error e => ⟨[], [], some e⟩
  | .ok (.send h) => sendEvent s channelNum data h
  | .ok (.log h) => logEventCallback channelNum eventId h data

-- ---------------------------------------------------------------------------
-- Which events raise, and what is sent
-- ---------------------------------------------------------------------------

/-- The channel found under the number has a description. -/
def Ready (s : State) (channelNum : UInt8) : Prop :=
  ∃ o ch, s.registryAt channelNum = some (o, ch) ∧ Describable ch.ivars

/-- The packet that `on_event_tx` sends on a channel. -/
def identCall (n : UInt8) : SendCall := .sendBroadcastData n [1, 33, 0, 0, 0, 0, 0, 0]

section Outcomes

variable {s : State} {channelNum : UInt8} {d : Buffer}

/-- What the library writes for an event is enough for each of the handlers of
packets: a buffer has a first byte. -/
theorem onEventRx_ok (r : Reception) (d : Buffer) :
    ∃ report, onEventRx r d.bytes = .ok report := by
  obtain ⟨b, rest, hd⟩ := d.exists_cons
  obtain ⟨dump, hdump⟩ := dumpPayload_eq rest
  rw [hd]
  cases r with
  | acknowledged => exact ⟨_, by rw [onEventRx, onEventRxAcknowledged, hdump]; rfl⟩
  | burst => exact ⟨_, by rw [onEventRx, onEventRxBurstPacket, hdump]; rfl⟩
  | broadcast => exact ⟨_, by rw [onEventRx, onEventRxBroadcast, hdump]; rfl⟩

theorem ofReport_raised (r : Reception) (d : Buffer) :
    (Logged.ofReport (onEventRx r d.bytes)).raised = none := by
  obtain ⟨report, hreport⟩ := onEventRx_ok r d
  rw [hreport]
  rfl

/-- The handlers of extended messages do not raise: the ID that they read is
within the buffer. -/
theorem onEventRxFlag_raised (r : Reception) (d : Buffer) :
    (onEventRxFlag r d.bytes).raised = none := by
  rw [onEventRxFlag, channelIdLines_eq]
  exact ofReport_raised r d

/-- `on_event_tx` sends its packet, or raises and sends nothing: the
description comes before the send, so a channel without one, or a number
without a channel, sends nothing. -/
theorem onEventTx_cases (s : State) (channelNum : UInt8) :
    (∃ o ch, s.registryAt channelNum = some (o, ch) ∧ Describable ch.ivars ∧
      onEventTx s channelNum = ⟨.ok .true, [identCall ch.channelNum]⟩) ∨
    ¬ Ready s channelNum ∧ ∃ e, onEventTx s channelNum = ⟨.error e, []⟩ := by
  rw [onEventTx]
  cases hreg : s.registryAt channelNum with
  | none =>
    refine .inr ⟨?_, _, rfl⟩
    rintro ⟨o, ch, hsome, -⟩
    rw [hreg] at hsome
    cases hsome
  | some entry =>
    obtain ⟨o, ch⟩ := entry
    have hok := isOk_inspect_iff s o ch
    cases hinspect : inspect s o ch with
    | error e =>
      rw [hinspect] at hok
      refine .inr ⟨?_, e, by simp [hinspect]⟩
      rintro ⟨o', ch', hsome, hdesc⟩
      rw [hreg, Option.some.injEq, Prod.mk.injEq] at hsome
      obtain ⟨rfl, rfl⟩ := hsome
      exact absurd (hok.mpr hdesc) (by simp [Except.isOk, Except.toBool])
    | ok description =>
      rw [hinspect] at hok
      exact .inl ⟨o, ch, rfl, hok.mp rfl, by simp [hinspect]; rfl⟩

/-- The event of `on_event_tx` is the only one that has this handler. -/
theorem lookup_onEventTx_iff (id : UInt8) :
    handlerMethods.lookup id = some .onEventTx ↔ id = eventTx := by
  constructor
  · intro hl
    obtain ⟨l₁, l₂, hmem, -⟩ := List.lookup_eq_some_iff.mp hl
    have hentry : (id, EventHandler.onEventTx) ∈ handlerMethods := by
      rw [hmem]
      simp
    simpa [handlerMethods] using hentry
  · rintro rfl
    rfl

/-- The other methods neither raise nor send. -/
theorem sendEvent_quiet {h : EventHandler} (hne : h ≠ .onEventTx) (hdef : respondTo h = true)
    (s : State) (channelNum : UInt8) (d : Buffer) :
    (sendEvent s channelNum d.bytes h).raised = none ∧
      (sendEvent s channelNum d.bytes h).calls = [] := by
  cases h with
  | onEventTx => exact absurd rfl hne
  | onEventRxExtAcknowledged | onEventRxExtBroadcast | onEventRxExtBurstPacket => cases hdef
  | onEventRxAcknowledged => exact ⟨ofReport_raised .acknowledged d, rfl⟩
  | onEventRxBroadcast => exact ⟨ofReport_raised .broadcast d, rfl⟩
  | onEventRxBurstPacket => exact ⟨ofReport_raised .burst d, rfl⟩
  | onEventRxFlagAcknowledged => exact ⟨onEventRxFlag_raised .acknowledged d, rfl⟩
  | onEventRxFlagBroadcast => exact ⟨onEventRxFlag_raised .broadcast d, rfl⟩
  | onEventRxFlagBurstPacket => exact ⟨onEventRxFlag_raised .burst d, rfl⟩
  | _ => exact ⟨rfl, rfl⟩

/-- An event whose handler is not defined is logged with its data. -/
theorem logEventCallback_quiet (channelNum eventId : UInt8) (h : EventHandler)
    (data : List UInt8) : (logEventCallback channelNum eventId h data).raised = none ∧
      (logEventCallback channelNum eventId h data).calls = [] := by
  have hdump : DataUtilities.hexdump (data.take 4) 8 = _ :=
    DataUtilities.hexdump_eq (by decide) (.inl (by decide))
  rw [logEventCallback, hdump]
  exact ⟨rfl, rfl⟩

/-- What the default handlers make of an event. -/
structure DefaultOutcome (s : State) (channelNum eventId : UInt8) (out : EventOutcome) : Prop where
  raised : out.raised ≠ none ↔
    eventId ∉ handlerMethods.map Prod.fst ∨ eventId = eventTx ∧ ¬ Ready s channelNum
  sent : ∀ c, c ∈ out.calls ↔ eventId = eventTx ∧ ∃ o ch,
    s.registryAt channelNum = some (o, ch) ∧ Describable ch.ivars ∧ c = identCall ch.channelNum
  once : out.calls.length ≤ 1

/-- An event of the table that is not `EVENT_TX` raises nothing, and sends nothing. -/
theorem DefaultOutcome.of_quiet {eventId : UInt8} {out : EventOutcome}
    (hmem : eventId ∈ handlerMethods.map Prod.fst) (htx : eventId ≠ eventTx)
    (hquiet : out.raised = none ∧ out.calls = []) : DefaultOutcome s channelNum eventId out := by
  obtain ⟨hraised, hcalls⟩ := hquiet
  refine ⟨?_, ?_, ?_⟩
  · rw [hraised]
    exact iff_of_false (by simp) (by simp [hmem, htx])
  · intro c
    rw [hcalls]
    exact iff_of_false (by simp) (fun h => htx h.1)
  · rw [hcalls]
    exact Nat.zero_le 1

/-- **Default handlers.** For every event, every state of the channels and
every content of the buffer: what raises is an event without a handler, and an
`EVENT_TX` for a number under which no channel with a description is found;
and the only packet sent is the one of `on_event_tx`, on the channel found. -/
theorem default_handlers (s : State) (channelNum eventId : UInt8) (d : Buffer) :
    DefaultOutcome s channelNum eventId (runEventCallback s channelNum eventId d.bytes) := by
  have hdispatch := handleEventCallback_isOk_iff eventId
  rw [runEventCallback]
  rw [handleEventCallback] at hdispatch ⊢
  cases hl : handlerMethods.lookup eventId with
  | none =>
    rw [hl] at hdispatch
    have hmem : eventId ∉ handlerMethods.map Prod.fst := by
      rw [← hdispatch]
      rintro ⟨d, hd⟩
      cases hd
    refine ⟨iff_of_true (by simp) (.inl hmem), fun c => iff_of_false (by simp) ?_, Nat.zero_le 1⟩
    rintro ⟨rfl, -⟩
    exact hmem (by decide)
  | some h =>
    rw [hl] at hdispatch
    have hmem := hdispatch.mp ⟨_, rfl⟩
    by_cases htx : h = .onEventTx
    · subst htx
      obtain rfl := (lookup_onEventTx_iff eventId).mp hl
      show DefaultOutcome s channelNum eventTx
        (.ofSend (readyLines s channelNum) (onEventTx s channelNum))
      rcases onEventTx_cases s channelNum with ⟨o, ch, hreg, hdesc, hout⟩ | ⟨hready, e, hout⟩
      · have hready : Ready s channelNum := ⟨o, ch, hreg, hdesc⟩
        rw [hout]
        refine ⟨iff_of_false (by simp [EventOutcome.ofSend]) (by simp [hmem, hready]),
          fun c => ?_, Nat.le_refl 1⟩
        simp [EventOutcome.ofSend, hreg, hdesc]
      · rw [hout]
        refine ⟨iff_of_true (by simp [EventOutcome.ofSend]) (.inr ⟨rfl, hready⟩), fun c => ?_,
          Nat.zero_le 1⟩
        refine iff_of_false (by simp [EventOutcome.ofSend]) ?_
        rintro ⟨-, o, ch, hreg, hdesc, -⟩
        exact hready ⟨o, ch, hreg, hdesc⟩
    · have hid : eventId ≠ eventTx := fun heq => by
        rw [(lookup_onEventTx_iff eventId).mpr heq, Option.some.injEq] at hl
        exact htx hl.symm
      by_cases hdef : respondTo h = true
      · simp only [hdef, if_true]
        exact .of_quiet hmem hid (sendEvent_quiet htx hdef s channelNum d)
      · simp only [hdef]
        exact .of_quiet hmem hid (logEventCallback_quiet channelNum eventId h d.bytes)

end Outcomes

-- ---------------------------------------------------------------------------
-- What is logged of a packet
-- ---------------------------------------------------------------------------

/-- The events that a packet is received with. -/
def receptions : List (UInt8 × Reception) :=
  [(eventRxAcknowledged, .acknowledged), (eventRxBroadcast, .broadcast),
    (eventRxBurstPacket, .burst), (eventRxFlagAcknowledged, .acknowledged),
    (eventRxFlagBroadcast, .broadcast), (eventRxFlagBurstPacket, .burst)]

/-- The report a line is about. -/
def HandlerLine.packet : HandlerLine → Option PacketReport
  | .event (.packet report) => some report
  | _ => none

/-- What a report shows of byte 0. -/
def PacketReport.header : PacketReport → Nat
  | .acknowledged channel _ => channel
  | .burst _ sequenceNum _ => sequenceNum
  | .broadcast channel _ => channel

def PacketReport.dump : PacketReport → String
  | .acknowledged _ dump | .burst _ _ dump | .broadcast _ dump => dump

/-- One report is logged, and no exception raised. It shows of byte 0 what its
handler shows, and its dump starts with the bytes behind it, nine at most. -/
structure LogsPacket (r : Reception) (b : UInt8) (rest : List UInt8) (out : EventOutcome) :
    Prop where
  noError : out.raised = none
  report : ∃ report, out.lines.filterMap HandlerLine.packet = [report] ∧
    report.header = Channel.header r b ∧
    (DataUtilities.readDump 8 report.dump).take rest.length = rest.take 9

section Packets

variable {r : Reception} {b : UInt8} {rest data : List UInt8}

/-- The report of a handler shows the data it is given: of byte 0 what the
handler makes of it, and of the bytes behind it nine, which can be read back
from the dump. -/
theorem onEventRx_shows (r : Reception) (b : UInt8) (rest : List UInt8) :
    ∃ report, onEventRx r (b :: rest) = .ok report ∧ report.header = Channel.header r b ∧
      DataUtilities.readDump 8 report.dump = rest.take 9 := by
  have hpayload : dumpPayload rest =
      .ok ("\n".intercalate (DataUtilities.dumpLines (rest.take 9) 8)) :=
    DataUtilities.hexdump_eq (by decide) (.inl (by decide))
  have hread : DataUtilities.readDump 8
      ("\n".intercalate (DataUtilities.dumpLines (rest.take 9) 8)) = rest.take 9 :=
    DataUtilities.readDump_dumpLines (by decide)
  generalize "\n".intercalate (DataUtilities.dumpLines (rest.take 9) 8) = dump at hpayload hread
  cases r with
  | acknowledged =>
    exact ⟨.acknowledged b.toNat dump,
      by rw [onEventRx, onEventRxAcknowledged, hpayload]; rfl, rfl, hread⟩
  | burst =>
    exact ⟨.burst ((b.toNat &&& channelNumberMask.toNat) >>> 5)
        (b.toNat &&& sequenceNumberMask.toNat) dump,
      by rw [onEventRx, onEventRxBurstPacket, hpayload]; rfl, rfl, hread⟩
  | broadcast =>
    exact ⟨.broadcast b.toNat dump,
      by rw [onEventRx, onEventRxBroadcast, hpayload]; rfl, rfl, hread⟩

/-- A packet and what is still in the buffer behind it: the report shows the packet. -/
theorem logsPacket_of_report {out : EventOutcome} (more : List UInt8)
    (hraised : out.raised = none)
    (hlines : ∀ report, onEventRx r (b :: rest ++ more) = .ok report →
      out.lines.filterMap HandlerLine.packet = [report]) : LogsPacket r b rest out := by
  obtain ⟨report, hreport, hheader, hread⟩ := onEventRx_shows r b (rest ++ more)
  refine ⟨hraised, report, hlines report hreport, hheader, ?_⟩
  rw [hread, List.take_take, Nat.min_comm, ← List.take_take, List.take_left]

/-- The handlers of plain messages log one report. -/
theorem logsPacket_plain {d : Buffer} {more : List UInt8} (hd : d.bytes = b :: rest ++ more) :
    LogsPacket r b rest (.ofLogged (.ofReport (onEventRx r d.bytes))) := by
  refine logsPacket_of_report more (ofReport_raised r d) fun report hreport => ?_
  rw [hd, hreport]
  rfl

/-- Those of extended messages log it behind the line of the channel ID. -/
theorem logsPacket_flag {d : Buffer} {more : List UInt8} (hd : d.bytes = b :: rest ++ more) :
    LogsPacket r b rest (.ofLogged (onEventRxFlag r d.bytes)) := by
  refine logsPacket_of_report more (onEventRxFlag_raised r d) fun report hreport => ?_
  rw [onEventRxFlag, channelIdLines_eq, hd, hreport]
  rfl

/-- **Packets.** Each of the handlers of a received packet logs it, if the
data string starts with it. -/
theorem runEventCallback_packet {ucEvent : UInt8} (hr : (ucEvent, r) ∈ receptions) (s : State)
    (channelNum : UInt8) {d : Buffer} {more : List UInt8} (hd : d.bytes = b :: rest ++ more) :
    LogsPacket r b rest (runEventCallback s channelNum ucEvent d.bytes) := by
  simp only [receptions, List.mem_cons, List.not_mem_nil, or_false, Prod.mk.injEq] at hr
  rcases hr with ⟨rfl, rfl⟩ | ⟨rfl, rfl⟩ | ⟨rfl, rfl⟩ | ⟨rfl, rfl⟩ | ⟨rfl, rfl⟩ | ⟨rfl, rfl⟩
  · exact logsPacket_plain hd
  · exact logsPacket_plain hd
  · exact logsPacket_plain hd
  · exact logsPacket_flag hd
  · exact logsPacket_flag hd
  · exact logsPacket_flag hd

end Packets

-- ---------------------------------------------------------------------------
-- From the library to the log
-- ---------------------------------------------------------------------------

/-- An event as the library reports it. -/
structure Report where
  ucANTChannel : UInt8
  ucEvent : UInt8
  bytes : EventBytes
  deriving DecidableEq, Repr

def EventAction.reported : EventAction → Option Report
  | .report n ucEvent bytes => some ⟨n, ucEvent, bytes⟩
  | _ => none

def Event.asReported (e : Event) : Report := ⟨e.ucANTChannel, e.ucEvent, e.bytes⟩

/-- The events of a schedule, in the order in which they are numbered. -/
def reports (as : List EventAction) : List Report := as.filterMap EventAction.reported

/-- Events keep their number, and what was reported. -/
structure Numbered (as : List EventAction) (s : EventState) (log : List Observation) : Prop where
  next : s.nextEvent = (reports as).length
  flight : ∀ k f, s.flights k = some f → (reports as)[k]? = some f.event.asReported
  called : ∀ k e o b data, .called k e o b data ∈ log →
    (reports as)[k]? = some e.asReported ∧ ∃ d : Buffer, data = d.bytes

section Runs

variable {as : List EventAction} {s s' : EventState} {a : EventAction} {log : List Observation}

theorem reports_append (as : List EventAction) (a : EventAction) :
    reports (as ++ [a]) = reports as ++ a.reported.toList := by
  rw [reports, List.filterMap_append, reports]
  cases h : a.reported <;> simp [h]

/-- Events are numbered in the order in which they are reported. -/
theorem EventChange.nextEvent_eq {ob : Option Observation} (h : EventChange s s' a ob) :
    s'.nextEvent = s.nextEvent + a.reported.toList.length := by
  cases h with
  | ruby a hpin hchan hfl hnext => exact hnext
  | reported n ucEvent bytes o ch hfn hbusy ho hchan hfl hnext => exact hnext
  | fetchFailed k e hk hreg heq => exact heq ▸ rfl
  | noBlock k e o ch hk hreg ho hcb heq => exact heq ▸ rfl
  | called k e o ch b hk hreg ho hcb heq => exact heq ▸ rfl
  | txMissing k e o hk hreg heq => exact heq ▸ rfl
  | txFound k e o p hk hreg heq => exact heq ▸ rfl
  | finished k r e o ch hk ho heq => exact heq ▸ rfl

/-- **Step.** What is in flight under a number, and what was called for it, is
the report of that number: a report takes the next number, and no step moves
an event from one to another. -/
theorem numbered_step (h : Numbered as s log) (hs : eventStep s a = some s') :
    Numbered (as ++ [a]) s' (log ++ (observe s a).toList) := by
  have hch := change_of_eventStep hs
  -- what was reported before keeps its place
  have hold : ∀ (k : Nat) (x : Report), (reports as)[k]? = some x →
      (reports (as ++ [a]))[k]? = some x := by
    intro k x hk
    obtain ⟨hlt, -⟩ := List.getElem?_eq_some_iff.mp hk
    rw [reports_append, List.getElem?_append_left hlt]
    exact hk
  refine ⟨?_, fun k f' hk => ?_, fun k e o b data hmem => ?_⟩
  · rw [hch.nextEvent_eq, h.next, reports_append, List.length_append]
  · rcases hch.flight_old hk with ⟨f, hf, he⟩ | ⟨rfl, -, -, -, -, ha⟩
    · exact hold k _ (he ▸ h.flight k f hf)
    · rw [reports_append, h.next, List.getElem?_append_right (Nat.le_refl _), Nat.sub_self, ha]
      rfl
  · rcases List.mem_append.mp hmem with hmem | hmem
    · obtain ⟨hk, hdata⟩ := h.called k e o b data hmem
      exact ⟨hold k _ hk, hdata⟩
    · rw [Option.mem_toList.mp hmem] at hch
      cases hch with
      | called k e o ch b hk hreg ho hcb heq =>
        exact ⟨hold k _ (h.flight k _ hk), ch.buffer, rfl⟩

/-- An `on_event` that keeps the entries binds no number that another object
serves: the registry holds the object under the number, and no other one. -/
theorem bindsAlone_of_keepsEntry (hkept : Kept s) (hkeeps : KeepsEntry s a) : BindsAlone s a := by
  cases a with
  | ruby a =>
    cases a with
    | onEvent o block =>
      cases block with
      | none => trivial
      | some b =>
        intro n hn p hp
        have hreg : s.chan.registry.lookup (int2fix n) = some o := hkeeps n hn
        obtain rfl : o = p := Option.some.inj (hreg.symm.trans hp)
        rw [if_pos rfl]
        rintro k - ⟨e, ph⟩ hf rfl rfl
        exact Option.some.inj ((hkept.queued k e hf).symm.trans hreg)
    | assignChannel | close | reset | antClose | gc => trivial
  | report | start | lookupTx | finish => trivial

/-- **Run.** The numbers and the routing together: a run that keeps the
entries binds each number to one object, which is the condition under which
events are routed right. -/
theorem numbered_exec
    (hrun : Lts.Exec (Lts.logged eventStep observe) (fun x a => KeepsEntry x.1 a)
      (eventInit, []) as (s, log)) :
    Numbered as s log ∧ Routed s ∧ ∀ ob ∈ log, RoutedRight ob := by
  generalize hx : (s, log) = x at hrun
  induction hrun generalizing s log with
  | nil =>
    obtain ⟨rfl, rfl⟩ := Prod.mk.inj hx
    exact ⟨⟨rfl, by simp [eventInit], by simp⟩, routed_init, by simp⟩
  | @snoc as t u a hrun hkeeps hs ih =>
    obtain ⟨t, l⟩ := t
    obtain ⟨hnum, hrouted, hlog⟩ := ih rfl
    obtain ⟨hfly, hkept, -⟩ := kept_exec hrun
    subst hx
    obtain ⟨hstep, rfl⟩ := Lts.logged_eq_some.mp hs
    refine ⟨numbered_step hnum hstep,
      routed_step hfly hrouted (bindsAlone_of_keepsEntry hkept hkeeps) hstep, fun ob hob => ?_⟩
    rcases List.mem_append.mp hob with hob | hob
    · exact hlog ob hob
    · exact routedRight_observe hrouted hstep ob (Option.mem_toList.mp hob)

end Runs

/-- **From the library to the log.** In every run that keeps the entries of
the registry while an event may need them: event number `k` waits for its
handler, or has called one block, once. The default handler then logs the
packet of an event that carries one as the library wrote it, whatever state
the channels are in. -/
theorem receptions_logged {as : List EventAction} {s : EventState} {log : List Observation}
    (hrun : Lts.Exec (Lts.logged eventStep observe) (fun x a => KeepsEntry x.1 a)
      (eventInit, []) as (s, log)) {k : Nat} {x : Report} (hk : (reports as)[k]? = some x) :
    (log.filter (callFor k) = [] ∧ ∃ e, s.flights k = some ⟨e, .queued⟩ ∧ e.asReported = x) ∨
    ∃ e o b data, log.filter (callFor k) = [.called k e o b data] ∧ e.asReported = x ∧
      ∀ c r h rest, (x.ucEvent, r) ∈ receptions → x.bytes.bytes = h :: rest →
        LogsPacket r h rest (runEventCallback c x.ucANTChannel x.ucEvent data) := by
  obtain ⟨hnum, -, hlog⟩ := numbered_exec hrun
  obtain ⟨-, -, htally, -⟩ := kept_exec hrun
  have hlt : k < s.nextEvent := by
    rw [hnum.next]
    exact (List.getElem?_eq_some_iff.mp hk).1
  rcases htally.once k hlt with ⟨hzero, e, hwaits⟩ | ⟨hone, -⟩
  · refine .inl ⟨?_, e, hwaits, ?_⟩
    · rwa [List.countP_eq_length_filter, List.length_eq_zero_iff] at hzero
    · exact Option.some.inj ((hnum.flight k _ hwaits).symm.trans hk)
  · rw [List.countP_eq_length_filter, List.length_eq_one_iff] at hone
    obtain ⟨ob, hob⟩ := hone
    obtain ⟨hmem, hcall⟩ : ob ∈ log ∧ callFor k ob = true := by
      rw [← List.mem_filter, hob]
      exact List.mem_singleton_self ob
    cases ob with
    | called j e o b data =>
      obtain rfl : j = k := of_decide_eq_true hcall
      obtain ⟨he, d, rfl⟩ := hnum.called j e o b data hmem
      obtain rfl : e.asReported = x := Option.some.inj (he.symm.trans hk)
      obtain ⟨-, htake⟩ := routedRight_called.mp (hlog _ hmem)
      refine .inr ⟨e, o, b, d.bytes, hob, rfl, fun c r h rest hr hbytes => ?_⟩
      have hbytes : e.bytes.bytes = h :: rest := hbytes
      have hd : d.bytes = h :: rest ++ d.bytes.drop (h :: rest).length := by
        rw [← hbytes]
        conv_lhs => rw [← List.take_append_drop e.bytes.bytes.length d.bytes, htake]
      exact runEventCallback_packet hr c _ hd
    | fetchFailed | noBlock | txMissing | txFound => cases hcall

/-- A broadcast is received, and handled. -/
def receivedBroadcast : List EventAction :=
  [.ruby (.assignChannel ⟨.int 3, .int 0, .nil, .nil, .nil⟩ true),
    .ruby (.onEvent 0 (some .handleEventCallback)),
    .report 3 eventRxBroadcast ⟨[3, 0x10, 0x20, 0x30, 0x40, 0x50, 0x60, 0x70, 0x80], by decide⟩,
    .start 0, .finish 0 (.returned .true)]

/-- A broadcast is received and handled, and its eight bytes are in the log. -/
theorem receptions_logged_receivedBroadcast : ∃ s log data,
    Lts.Exec (Lts.logged eventStep observe) (fun x a => KeepsEntry x.1 a) (eventInit, [])
      receivedBroadcast (s, log) ∧
    LogsPacket .broadcast 3 [0x10, 0x20, 0x30, 0x40, 0x50, 0x60, 0x70, 0x80]
      (runEventCallback s.chan 3 eventRxBroadcast data) := by
  have hrun : (Lts.runIf (Lts.logged eventStep observe) (fun x a => decide (KeepsEntry x.1 a))
      (eventInit, []) receivedBroadcast).map (fun x => x.2.countP (callFor 0)) = some 1 := by
    decide +kernel
  obtain ⟨⟨s, log⟩, hexec, hone⟩ := Lts.exec_of_checked hrun
  rcases receptions_logged hexec (show (reports receivedBroadcast)[0]? = _ from rfl) with
    ⟨hnone, -⟩ | ⟨e, o, b, data, -, -, hlogs⟩
  · rw [List.countP_eq_length_filter, hnone] at hone
    cases hone
  · exact ⟨s, log, data, hexec, hlogs s.chan .broadcast 3 _ (by decide) rfl⟩

end AntWireless.Channel
