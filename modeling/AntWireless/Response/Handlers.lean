import AntWireless.Channel.Inspect
import AntWireless.Response.AdvancedBurst
import AntWireless.Response.Capabilities

/-!
# AntWireless — the default response handlers (`Ant::ResponseCallbacks`)

`handle_response_callback` looks a message up in `HANDLER_METHODS` and calls the method found
there. The one for a response event looks the command it answers up in the same table, which
also holds the methods for information messages.

* `handleResponseCallback` — the log lines, what is stored about the device, and how the
  handler ends.
* `Untouched` — a message changes the information it carries, and no other.
* `acknowledgement_iff` — that holds of every message but of response events that answer a
  command whose method stores something.
-/

namespace AntWireless.Response

open Channel (State)

-- ---------------------------------------------------------------------------
-- The table
-- ---------------------------------------------------------------------------

inductive ResponseHandler
  | onStartupMesg
  | onCapabilities
  | onChannelStatus
  | onVersion
  | onChannelId
  | onEventBufferingConfig
  | onGetSerialNum
  | onResponseEvent
  | onNetworkKey
  | onAssignChannel
  | onUnassignChannel
  | onChannelRadioFreq
  | onOpenChannel
  | onRxExtMesgsEnable
  | onCloseChannel
  | onRequest
  | onBroadcastData
  | onAcknowledgedData
  | onBurstData
  | onAdvBurstData
  | onChannelMesgPeriod
  | onChannelSearchTimeout
  | onRadioTxPower
  | onAutoFreqConfig
  | onConfigAdvBurstId
  deriving DecidableEq, Repr

/-- `HANDLER_METHODS`. -/
def handlerMethods : List (UInt8 × ResponseHandler) :=
  [(mesgStartupMesgId, .onStartupMesg),
    (mesgCapabilitiesId, .onCapabilities),
    (mesgChannelStatusId, .onChannelStatus),
    (mesgVersionId, .onVersion),
    (mesgChannelIdId, .onChannelId),
    (mesgEventBufferingConfigId, .onEventBufferingConfig),
    (mesgGetSerialNumId, .onGetSerialNum),
    (mesgResponseEventId, .onResponseEvent),
    (mesgNetworkKeyId, .onNetworkKey),
    (mesgAssignChannelId, .onAssignChannel),
    (mesgUnassignChannelId, .onUnassignChannel),
    (mesgChannelRadioFreqId, .onChannelRadioFreq),
    (mesgOpenChannelId, .onOpenChannel),
    (mesgRxExtMesgsEnableId, .onRxExtMesgsEnable),
    (mesgCloseChannelId, .onCloseChannel),
    (mesgRequestId, .onRequest),
    (mesgBroadcastDataId, .onBroadcastData),
    (mesgAcknowledgedDataId, .onAcknowledgedData),
    (mesgBurstDataId, .onBurstData),
    (mesgAdvBurstDataId, .onAdvBurstData),
    (mesgChannelMesgPeriodId, .onChannelMesgPeriod),
    (mesgChannelSearchTimeoutId, .onChannelSearchTimeout),
    (mesgRadioTxPowerId, .onRadioTxPower),
    (mesgAutoFreqConfigId, .onAutoFreqConfig),
    (mesgConfigAdvBurstId, .onConfigAdvBurstId)]

/-- `respond_to?` of a handler method; two are not defined. -/
def respondTo : ResponseHandler → Bool
  | .onEventBufferingConfig | .onAdvBurstData => false
  | _ => true

-- ---------------------------------------------------------------------------
-- What a handler does
-- ---------------------------------------------------------------------------

/-- What is stored about the device; `nil` is `none`. -/
structure DeviceInfo where
  capabilities : Option Capabilities
  serialNum : Option Nat
  hardwareVersion : Option (List UInt8)
  advancedBurstCapabilities : Option AdvancedBurstCapabilities
  advancedBurstConfig : Option AdvancedBurstConfig
  deriving DecidableEq, Repr

/-- A line of the log: its text, or what is formatted into it. -/
inductive LogLine
  | error (text : String)
  | info (text : String)
  | version (version : List UInt8)
  | capabilities (caps : Capabilities)
  | serialNumber (serial : Nat)
  | advancedBurst (type : UInt8) (data : List UInt8)
  | advancedBurstReply (reply : AdvancedBurstReply)
  | responseCallback (channelNum messageId : UInt8) (handlerMethod : ResponseHandler)
      (bytes : List UInt8)
  deriving DecidableEq, Repr

/-- How a handler ends. -/
inductive Ending
  | returned
  | raised (e : RubyError)
  | systemStackError
  deriving DecidableEq, Repr

/-- A handler writes to the log, may store something, and ends. -/
structure Handled where
  info : DeviceInfo
  log : List LogLine
  ending : Ending
  deriving DecidableEq, Repr

/-- `log_response_event`. The channel is described only for an error. -/
def logResponseEvent (s : State) (channelNum : UInt8) (data : List UInt8)
    (errDesc logDesc : String) : Except RubyError LogLine :=
  match data[2]? with
  | none => .error .noMethodError
  | some status =>
    if status ≠ 0 then do
      let channel ←
        match s.registryAt channelNum with
        | none => .ok "nil"
        | some (o, ch) => Channel.inspect s o ch
      return .error ("Error while " ++ errDesc ++ " on " ++ channel ++ ": 0x" ++
        hexDigits status.toNat)
    else return .info logDesc

section Events

variable (s : State) (channelNum : UInt8) (data : List UInt8)

def onNetworkKey := logResponseEvent s channelNum data "setting network key" "Network key set"

def onAssignChannel :=
  logResponseEvent s channelNum data "assigning channel"
    ("Channel " ++ toString channelNum.toNat ++ " assigned.")

def onUnassignChannel :=
  logResponseEvent s channelNum data "unassigning channel"
    ("Channel " ++ toString channelNum.toNat ++ " unassigned.")

def onChannelId := logResponseEvent s channelNum data "setting channel ID" "Channel ID set."

def onChannelRadioFreq :=
  logResponseEvent s channelNum data "setting channel radio frequency"
    "Channel radio frequency set."

def onOpenChannel := logResponseEvent s channelNum data "opening channel" "Channel opened."

def onCloseChannel := logResponseEvent s channelNum data "closing channel" "Channel closed."

def onChannelMesgPeriod :=
  logResponseEvent s channelNum data "setting channel period" "Channel period assigned."

def onChannelSearchTimeout :=
  logResponseEvent s channelNum data "setting search timeout" "Search timeout."

def onRadioTxPower :=
  logResponseEvent s channelNum data "setting transmit power" "Transmit power changed."

def onBroadcastData :=
  logResponseEvent s channelNum data "sending broadcast data" "Sent broadcast data."

def onAcknowledgedData :=
  logResponseEvent s channelNum data "sending acked data" "Acked data sent."

def onBurstData := logResponseEvent s channelNum data "sending burst data" "Burst data sent."

def onChannelStatus :=
  logResponseEvent s channelNum data "requesting channel status" "Got channel status."

def onRxExtMesgsEnable :=
  logResponseEvent s channelNum data "enabling extended message: not supported"
    "Enabled extended messages."

def onAutoFreqConfig :=
  logResponseEvent s channelNum data "enabling frequency agility" "Enabled frequency agility."

def onRequest :=
  logResponseEvent s channelNum data "requesting an unsupported message" "[n/a]"

end Events

/-- `on_startup_mesg`; two reasons end with a blank. -/
def onStartupMesg (data : List UInt8) : LogLine :=
  let reason :=
    match data[0]? with
    | none => "UNKNOWN REASON"
    | some reason =>
      if reason = resetPor then "RESET_POR"
      else if reason = resetSuspend then "RESET_SUSPEND "
      else if reason = resetSync then "RESET_SYNC "
      else if reason = resetCmd then "RESET_CMD "
      else if reason = resetWdt then "RESET_WDT "
      else if reason = resetRst then "RESET_RST "
      else "UNKNOWN REASON"
  .info ("Reset complete: " ++ reason)

/-- `String#strip`. -/
def strip (data : List UInt8) : List UInt8 :=
  let blank (c : UInt8) : Bool := c = 0 || isSpace c
  (data.dropWhile blank).rdropWhile blank

/-- `data.unpack1( 'L<' )`. -/
def unpackSerial (data : List UInt8) : Option Nat := (Bytes.unpackLe 4 data).1

/-- A handler that only logs, or raises. -/
def Handled.ofLog (info : DeviceInfo) : Except RubyError LogLine → Handled
  | .ok line => ⟨info, [line], .returned⟩
  | .error e => ⟨info, [], .raised e⟩

/-- `on_version`. -/
def onVersion (info : DeviceInfo) (data : List UInt8) : Handled :=
  let version := strip data
  ⟨{ info with hardwareVersion := some version }, [.version version], .returned⟩

/-- `on_get_serial_num`; `%d` does not print `nil`. -/
def onGetSerialNum (info : DeviceInfo) (data : List UInt8) : Handled :=
  match unpackSerial data with
  | none => ⟨info, [], .raised .typeError⟩
  | some serial => ⟨{ info with serialNum := some serial }, [.serialNumber serial], .returned⟩

/-- `on_config_adv_burst_id`, with what it stores. -/
def storeAdvancedBurst (info : DeviceInfo) (type : UInt8) (data : List UInt8) : Handled :=
  let reply := onConfigAdvBurstId type data
  let log := [.advancedBurst type data, .advancedBurstReply reply]
  match reply with
  | .capabilities caps => ⟨{ info with advancedBurstCapabilities := some caps }, log, .returned⟩
  | .config config => ⟨{ info with advancedBurstConfig := some config }, log, .returned⟩
  | .unknown => ⟨info, log, .returned⟩

/-- `send( handler_method, channel_num, data )`; `onResponseEvent` is what
that method does. -/
def sendHandler (s : State) (info : DeviceInfo) (channelNum : UInt8) (data : List UInt8)
    (onResponseEvent : Handled) : ResponseHandler → Handled
  | .onStartupMesg => .ofLog info (.ok (onStartupMesg data))
  | .onCapabilities =>
    let caps := onCapabilities data
    ⟨{ info with capabilities := some caps }, [.capabilities caps], .returned⟩
  | .onChannelStatus => .ofLog info (onChannelStatus s channelNum data)
  | .onVersion => onVersion info data
  | .onChannelId => .ofLog info (onChannelId s channelNum data)
  | .onGetSerialNum => onGetSerialNum info data
  | .onResponseEvent => onResponseEvent
  | .onNetworkKey => .ofLog info (onNetworkKey s channelNum data)
  | .onAssignChannel => .ofLog info (onAssignChannel s channelNum data)
  | .onUnassignChannel => .ofLog info (onUnassignChannel s channelNum data)
  | .onChannelRadioFreq => .ofLog info (onChannelRadioFreq s channelNum data)
  | .onOpenChannel => .ofLog info (onOpenChannel s channelNum data)
  | .onRxExtMesgsEnable => .ofLog info (onRxExtMesgsEnable s channelNum data)
  | .onCloseChannel => .ofLog info (onCloseChannel s channelNum data)
  | .onRequest => .ofLog info (onRequest s channelNum data)
  | .onBroadcastData => .ofLog info (onBroadcastData s channelNum data)
  | .onAcknowledgedData => .ofLog info (onAcknowledgedData s channelNum data)
  | .onBurstData => .ofLog info (onBurstData s channelNum data)
  | .onChannelMesgPeriod => .ofLog info (onChannelMesgPeriod s channelNum data)
  | .onChannelSearchTimeout => .ofLog info (onChannelSearchTimeout s channelNum data)
  | .onRadioTxPower => .ofLog info (onRadioTxPower s channelNum data)
  | .onAutoFreqConfig => .ofLog info (onAutoFreqConfig s channelNum data)
  | .onConfigAdvBurstId => storeAdvancedBurst info channelNum data
  -- not defined
  | .onEventBufferingConfig | .onAdvBurstData => ⟨info, [], .raised .noMethodError⟩

/-- `log_response_callback`. -/
def logResponseCallback (channelNum messageId : UInt8) (handlerMethod : ResponseHandler)
    (data : List UInt8) : LogLine :=
  .responseCallback channelNum messageId handlerMethod (data.take 4)

/-- `handle_response_callback`, with room for `depth` calls on the stack; a
byte the data does not have is a message ID of `nil`. -/
def handleResponseCallback (depth : Nat) (s : State) (info : DeviceInfo) (channelNum : UInt8)
    (messageId : Option UInt8) (data : List UInt8) : Handled :=
  match depth, messageId with
  | 0, _ => ⟨info, [], .systemStackError⟩
  | _ + 1, none => ⟨info, [], .raised (.runtimeError "Unhandled response message ID nil")⟩
  | depth + 1, some id =>
    match handlerMethods.lookup id with
    | none =>
      ⟨info, [], .raised (.runtimeError ("Unhandled response message ID " ++ toString id.toNat))⟩
    | some handlerMethod =>
      if respondTo handlerMethod then
        -- `on_response_event` looks up the command it answers
        sendHandler s info channelNum data
          (handleResponseCallback depth s info channelNum data[1]? data) handlerMethod
      else ⟨info, [logResponseCallback channelNum id handlerMethod data], .returned⟩

-- ---------------------------------------------------------------------------
-- What is stored by whom
-- ---------------------------------------------------------------------------

/-- What is stored about the device is as before, but for what the message
`id` carries. -/
structure Untouched (id : UInt8) (before after : DeviceInfo) : Prop where
  capabilities : id ≠ mesgCapabilitiesId → after.capabilities = before.capabilities
  serialNum : id ≠ mesgGetSerialNumId → after.serialNum = before.serialNum
  hardwareVersion : id ≠ mesgVersionId → after.hardwareVersion = before.hardwareVersion
  advancedBurstCapabilities : id ≠ mesgConfigAdvBurstId →
    after.advancedBurstCapabilities = before.advancedBurstCapabilities
  advancedBurstConfig : id ≠ mesgConfigAdvBurstId →
    after.advancedBurstConfig = before.advancedBurstConfig

/-- The command that a response event answers is none whose method stores
something of this data. -/
structure AnswersCommand (channelNum : UInt8) (data : List UInt8) : Prop where
  capabilities : data[1]? ≠ some mesgCapabilitiesId
  serialNum : data[1]? = some mesgGetSerialNumId → data.length < 4
  hardwareVersion : data[1]? ≠ some mesgVersionId
  advancedBurst : data[1]? = some mesgConfigAdvBurstId → 2 ≤ channelNum

section Frame

variable {s : State} {info : DeviceInfo} {channelNum id : UInt8} {data : List UInt8}

theorem Untouched.refl (id : UInt8) (info : DeviceInfo) : Untouched id info info :=
  ⟨fun _ => rfl, fun _ => rfl, fun _ => rfl, fun _ => rfl, fun _ => rfl⟩

/-- A message that carries no information leaves all of it as it was. -/
theorem Untouched.eq {after : DeviceInfo} (h : Untouched id info after)
    (hid : id ∉ [mesgCapabilitiesId, mesgGetSerialNumId, mesgVersionId, mesgConfigAdvBurstId]) :
    after = info := by
  simp only [List.mem_cons, List.not_mem_nil, or_false, not_or] at hid
  obtain ⟨hcaps, hserial, hversion, hburst⟩ := hid
  cases after
  rw [DeviceInfo.mk.injEq]
  exact ⟨h.capabilities hcaps, h.serialNum hserial, h.hardwareVersion hversion,
    h.advancedBurstCapabilities hburst, h.advancedBurstConfig hburst⟩

@[simp] theorem ofLog_info (r : Except RubyError LogLine) : (Handled.ofLog info r).info = info := by
  cases r <;> rfl

/-- The serial number is stored if the data has four bytes for it. -/
theorem onGetSerialNum_info (info : DeviceInfo) (data : List UInt8) :
    (onGetSerialNum info data).info =
      if 4 ≤ data.length then { info with serialNum := some (Bytes.ofLe (data.take 4)) }
      else info := by
  unfold onGetSerialNum unpackSerial Bytes.unpackLe
  by_cases hlen : 4 ≤ data.length
  · rw [if_pos hlen, if_pos hlen]
  · rw [if_neg hlen, if_neg hlen]

/-- A reply of type 0 is about what the device can do, one of type 1 about how
it is set. -/
theorem storeAdvancedBurst_info (info : DeviceInfo) (channelNum : UInt8) (data : List UInt8) :
    (storeAdvancedBurst info channelNum data).info =
      if channelNum = 0 then
        { info with advancedBurstCapabilities := some (unpackCapabilities data) }
      else if channelNum = 1 then { info with advancedBurstConfig := some (unpackConfig data) }
      else info := by
  unfold storeAdvancedBurst onConfigAdvBurstId
  split
  · rfl
  · split <;> rfl

theorem lookup_code {h : ResponseHandler} (hl : handlerMethods.lookup id = some h) :
    (id, h) ∈ handlerMethods := by
  obtain ⟨l₁, l₂, hl, -⟩ := List.lookup_eq_some_iff.mp hl
  rw [hl]
  simp

/-- **Step.** A method stores nothing but what its own message carries. The
cases are the methods of the table, most of which only log; each of the four
that store has one message. -/
theorem sendHandler_untouched {h : ResponseHandler} (r : Handled)
    (hl : handlerMethods.lookup id = some h) (hid : id ≠ mesgResponseEventId) :
    Untouched id info (sendHandler s info channelNum data r h).info := by
  have hmem := lookup_code hl
  cases h with
  | onCapabilities =>
    obtain rfl : id = mesgCapabilitiesId := by simpa [handlerMethods] using hmem
    exact ⟨fun h => absurd rfl h, fun _ => rfl, fun _ => rfl, fun _ => rfl, fun _ => rfl⟩
  | onVersion =>
    obtain rfl : id = mesgVersionId := by simpa [handlerMethods] using hmem
    exact ⟨fun _ => rfl, fun _ => rfl, fun h => absurd rfl h, fun _ => rfl, fun _ => rfl⟩
  | onGetSerialNum =>
    obtain rfl : id = mesgGetSerialNumId := by simpa [handlerMethods] using hmem
    rw [sendHandler, onGetSerialNum_info]
    split
    · exact ⟨fun _ => rfl, fun h => absurd rfl h, fun _ => rfl, fun _ => rfl, fun _ => rfl⟩
    · exact Untouched.refl _ _
  | onConfigAdvBurstId =>
    obtain rfl : id = mesgConfigAdvBurstId := by simpa [handlerMethods] using hmem
    rw [sendHandler, storeAdvancedBurst_info]
    split
    · exact ⟨fun _ => rfl, fun _ => rfl, fun _ => rfl, fun h => absurd rfl h, fun _ => rfl⟩
    · split
      · exact ⟨fun _ => rfl, fun _ => rfl, fun _ => rfl, fun _ => rfl, fun h => absurd rfl h⟩
      · exact Untouched.refl _ _
  | onResponseEvent =>
    obtain rfl : id = mesgResponseEventId := by simpa [handlerMethods] using hmem
    exact absurd rfl hid
  | _ =>
    -- the other methods only log
    simp only [sendHandler, ofLog_info]
    exact Untouched.refl _ _

/-- A dispatch of a message that is no response event is that of its method,
or stores nothing. -/
theorem handle_untouched (depth : Nat) (hid : id ≠ mesgResponseEventId) :
    Untouched id info (handleResponseCallback depth s info channelNum (some id) data).info := by
  cases depth with
  | zero => exact Untouched.refl _ _
  | succ depth =>
    rw [handleResponseCallback]
    split
    · exact Untouched.refl _ _
    · split
      · exact sendHandler_untouched _ (by assumption) hid
      · exact Untouched.refl _ _

/-- A response event does what the message it answers does, one call deeper. -/
theorem handle_responseEvent (depth : Nat) (s : State) (info : DeviceInfo) (channelNum : UInt8)
    (data : List UInt8) :
    handleResponseCallback (depth + 1) s info channelNum (some mesgResponseEventId) data =
      handleResponseCallback depth s info channelNum data[1]? data := rfl

/-- The four messages that carry information, by what their methods store. -/
theorem handle_information (depth : Nat) (s : State) (info : DeviceInfo) (channelNum : UInt8)
    (data : List UInt8) :
    (handleResponseCallback (depth + 1) s info channelNum (some mesgCapabilitiesId) data).info =
      { info with capabilities := some (onCapabilities data) } ∧
    (handleResponseCallback (depth + 1) s info channelNum (some mesgVersionId) data).info =
      { info with hardwareVersion := some (strip data) } ∧
    (handleResponseCallback (depth + 1) s info channelNum (some mesgGetSerialNumId) data).info =
      (onGetSerialNum info data).info ∧
    (handleResponseCallback (depth + 1) s info channelNum (some mesgConfigAdvBurstId) data).info =
      (storeAdvancedBurst info channelNum data).info := ⟨rfl, rfl, rfl, rfl⟩

/-- An acknowledgement of a command changes nothing, however deep it is looked
up: the command's method only logs, has too little data to store, or replies
of that type are not stored. -/
theorem answer_unchanged (h : AnswersCommand channelNum data) (depth : Nat) (s : State)
    (info : DeviceInfo) :
    (handleResponseCallback depth s info channelNum (some mesgResponseEventId) data).info =
      info := by
  induction depth with
  | zero => rfl
  | succ depth ih =>
    rw [handle_responseEvent]
    cases hbyte : data[1]? with
    | none => cases depth <;> rfl
    | some id =>
      by_cases hagain : id = mesgResponseEventId
      · rw [hagain, ih]
      · have huntouched : Untouched id info
            (handleResponseCallback depth s info channelNum (some id) data).info :=
          handle_untouched depth hagain
        by_cases hid : id ∈
            [mesgCapabilitiesId, mesgGetSerialNumId, mesgVersionId, mesgConfigAdvBurstId]
        · -- a serial number that is not there, or an advanced burst reply of no known type
          simp only [List.mem_cons, List.not_mem_nil, or_false] at hid
          cases depth with
          | zero => rfl
          | succ depth =>
            obtain ⟨-, -, hserial, hburst⟩ := handle_information depth s info channelNum data
            rcases hid with rfl | rfl | rfl | rfl
            · exact absurd hbyte h.capabilities
            · have hshort := h.serialNum hbyte
              rw [hserial, onGetSerialNum_info, if_neg (Nat.not_le.mpr hshort)]
            · exact absurd hbyte h.hardwareVersion
            · have htype := UInt8.le_iff_toNat_le.mp (h.advancedBurst hbyte)
              rw [hburst, storeAdvancedBurst_info, if_neg, if_neg]
              · rintro rfl
                exact absurd htype (by decide)
              · rintro rfl
                exact absurd htype (by decide)
        · exact huntouched.eq hid

/-- Nothing is known about the device. -/
def noInfo : DeviceInfo := ⟨none, none, none, none, none⟩

/-- Data that `on_response_event` changes nothing by, in a program that knows
nothing of the device: byte 1 names no method that would store it. Whatever is
stored shows, as nothing was known. -/
theorem answersCommand_of_untouched {channelNum : UInt8} {data : List UInt8}
    (hanswer : Untouched mesgResponseEventId noInfo
      (handleResponseCallback 1 Channel.init noInfo channelNum data[1]? data).info) :
    AnswersCommand channelNum data := by
  obtain ⟨hcaps, hversion, hserial, hburst⟩ :=
    handle_information 0 Channel.init noInfo channelNum data
  refine ⟨fun hbyte => ?_, fun hbyte => ?_, fun hbyte => ?_, fun hbyte => ?_⟩
  · rw [hbyte, hcaps] at hanswer
    have hnone := hanswer.capabilities (by decide)
    cases hnone
  · rw [hbyte, hserial, onGetSerialNum_info] at hanswer
    by_contra hlong
    rw [if_pos (Nat.le_of_not_lt hlong)] at hanswer
    have hnone := hanswer.serialNum (by decide)
    cases hnone
  · rw [hbyte, hversion] at hanswer
    have hnone := hanswer.hardwareVersion (by decide)
    cases hnone
  · rw [hbyte, hburst, storeAdvancedBurst_info] at hanswer
    by_cases hzero : channelNum = 0
    · rw [if_pos hzero] at hanswer
      have hnone := hanswer.advancedBurstCapabilities (by decide)
      cases hnone
    · by_cases hone : channelNum = 1
      · rw [if_neg hzero, if_pos hone] at hanswer
        have hnone := hanswer.advancedBurstConfig (by decide)
        cases hnone
      · rw [UInt8.le_iff_toNat_le]
        have hz : channelNum.toNat ≠ 0 := fun h => hzero (UInt8.toNat.inj h)
        have ho : channelNum.toNat ≠ 1 := fun h => hone (UInt8.toNat.inj h)
        have htwo : (2 : UInt8).toNat = 2 := rfl
        omega

/-- **Acknowledgements.** For every channel number, message and data: handling
the message changes no information but that which the message carries, if and
only if it is no response event, or one that answers a command whose method
stores nothing of this data. -/
theorem acknowledgement_iff (channelNum id : UInt8) (data : List UInt8) :
    (∀ depth s info, Untouched id info
      (handleResponseCallback depth s info channelNum (some id) data).info) ↔
    (id = mesgResponseEventId → AnswersCommand channelNum data) := by
  constructor
  · rintro huntouched rfl
    exact answersCommand_of_untouched (huntouched 2 Channel.init noInfo)
  · intro h depth s info
    by_cases hid : id = mesgResponseEventId
    · subst hid
      rw [answer_unchanged (h rfl)]
      exact Untouched.refl _ _
    · exact handle_untouched depth hid

/-- **An acknowledgement taken for information.** The device acknowledges
`configure_advanced_burst`, on channel 0: capabilities are stored that say 0
for the packet length. -/
theorem acknowledgement_stored :
    (handleResponseCallback 100 Channel.init noInfo 0 (some mesgResponseEventId)
      ([0, mesgConfigAdvBurstId, 0] ++ List.replicate 38 0)).info.advancedBurstCapabilities =
        some ⟨some 0, false⟩ ∧
    ¬ Untouched mesgResponseEventId noInfo
      (handleResponseCallback 100 Channel.init noInfo 0 (some mesgResponseEventId)
        ([0, mesgConfigAdvBurstId, 0] ++ List.replicate 38 0)).info := by
  have hstored : (handleResponseCallback 100 Channel.init noInfo 0 (some mesgResponseEventId)
      ([0, mesgConfigAdvBurstId, 0] ++ List.replicate 38 0)).info.advancedBurstCapabilities =
        some ⟨some 0, false⟩ := by decide +kernel
  refine ⟨hstored, fun huntouched => ?_⟩
  have hnone := huntouched.advancedBurstCapabilities (by decide)
  rw [hstored] at hnone
  cases hnone

end Frame

end AntWireless.Response
