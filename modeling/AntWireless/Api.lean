import AntWireless.Channel.Assignment
import AntWireless.Channel.Networks
import AntWireless.Channel.Send
import AntWireless.Lib.Interleave
import AntWireless.Response.AdvancedBurst
import AntWireless.Response.Session

/-!
# AntWireless — the methods of the extension, and what they leave where they raise

Every method converts its arguments first, then makes its library call, and what it changes it
changes last. `Ant.assign_channel` converts its channel number once more behind the call.

* `Method`, `perform` — the methods of `Ant` and of its channels that make library calls.
* `Ended`, `ended_of_perform` — the four ways in which a method can end.
* `raising_traceless` — a method that raises has changed nothing; so the calls that raise can be
  left out of any run.
-/

namespace AntWireless.Api

open Channel (ObjId LibraryCall SettingCall SendCall AssignArgs NetworkKey Setter SendPath Block
  RantChannel)
open Response (ResponseBlock Session AdvancedBurstCall)

-- ---------------------------------------------------------------------------
-- Library calls and outcomes
-- ---------------------------------------------------------------------------

/-- The library calls of the methods, with the arguments they pass. -/
inductive Call
  | libVersion
  | getDeviceUSBInfo (ucUSBDeviceNum : UInt8)
  | getDeviceUSBPID
  | getDeviceUSBVID
  | getDeviceSerialNumber
  | isInitialized
  | setDebugLogDirectory (directory : List UInt8)
  | init (ucUSBDeviceNum : UInt8) (ulBaudrate : UInt32)
  | setNetworkKey (ucNetNumber : UInt8) (pucKey : NetworkKey)
  | rxExtMesgsEnable (ucEnable : Bool)
  | configureAdvancedBurst (c : AdvancedBurstCall)
  | requestMessage (ucANTChannel ucMessageID : UInt8)
  | assignResponseFunction
  | openChannelRTO (n : UInt8) (ulResponseTime : UInt32)
  | channel (c : LibraryCall)
  | setting (c : SettingCall)
  | send (c : SendCall)
  deriving DecidableEq, Repr

/-- What the extension itself keeps: the channels with their registry, and the
response block with its buffer. -/
structure State where
  chan : Channel.State
  session : Session

/-- A method returns or raises, makes library calls and leaves a state. -/
structure Outcome where
  value : Except RubyError Value
  calls : List Call
  state : State

/-- A method that only makes a library call, and then returns or raises `result`. -/
def callLibrary (s : State) (call : Except RubyError Call) (result : Except RubyError Value) :
    Outcome :=
  match call with
  | .error e => ⟨.error e, [], s⟩
  | .ok c => ⟨result, [c], s⟩

/-- `rval ? Qtrue : Qfalse`. -/
def qbool (rval : Bool) : Value := if rval then .true else .false

-- ---------------------------------------------------------------------------
-- The methods
-- ---------------------------------------------------------------------------

/-- `rant_s_device_usb_info`. The two strings it returns are not told from `true`. -/
def rantSDeviceUsbInfo (s : State) (deviceNum : Value) (ok : Bool) : Outcome :=
  callLibrary s ((num2short deviceNum).map fun i => .getDeviceUSBInfo (UInt8.ofInt i))
    (.ok (if ok then .true else .nil))

/-- `rant_s_device_usb_pid`; `rb_sys_fail` raises a SystemCallError. -/
def rantSDeviceUsbPid (s : State) (pid : UInt16) (ok : Bool) : Outcome :=
  callLibrary s (.ok .getDeviceUSBPID)
    (if ok then .ok (.int pid.toNat) else .error (.systemCallError "Fetching the USB PID."))

/-- `rant_s_device_usb_vid`. -/
def rantSDeviceUsbVid (s : State) (vid : UInt16) (ok : Bool) : Outcome :=
  callLibrary s (.ok .getDeviceUSBVID)
    (if ok then .ok (.int vid.toNat) else .error (.systemCallError "Fetching the USB VID."))

/-- `rant_s_device_serial_number`; `none` in a build against a library without
the call. -/
def rantSDeviceSerialNumber (s : State) (serial : Option UInt32) : Outcome :=
  match serial with
  | none => ⟨.error .notImplementedError, [], s⟩
  | some serial => ⟨.ok (.int serial.toNat), [.getDeviceSerialNumber], s⟩

/-- `rant_s_initialized_p`; `built` is whether the library has the call. -/
def rantSInitializedP (s : State) (built ok : Bool) : Outcome :=
  callLibrary s (if built then .ok .isInitialized else .error .notImplementedError) (.ok (qbool ok))

/-- `rant_s_log_directory_eq`. -/
def rantSLogDirectoryEq (s : State) (directory : Value) (ok : Bool) : Outcome :=
  callLibrary s ((stringValueCStr directory).map .setDebugLogDirectory) (.ok (qbool ok))

/-- `DEFAULT_BAUDRATE`. -/
def defaultBaudrate : UInt32 := 57600

/-- `rant_s_init` up to its library call. -/
def initCall (deviceNum baudRate : Value) : Except RubyError Call := do
  let ucUSBDeviceNum ← optionalChr deviceNum
  let ulBaudrate ← if baudRate.rtest then num2uint baudRate else .ok defaultBaudrate
  return .init ucUSBDeviceNum ulBaudrate

/-- `rant_s_init`; `ok` is whether its library call succeeds. -/
def rantSInit (s : State) (deviceNum baudRate : Value) (ok : Bool) : Outcome :=
  callLibrary s (initCall deviceNum baudRate)
    (if ok then .ok .true
    else .error (.runtimeError "Initializing the ANT library (no ANT device present?)."))

/-- `rant_s_use_extended_messages_eq`. -/
def rantSUseExtendedMessagesEq (s : State) (trueFalse : Value) : Outcome :=
  ⟨.ok .true, [.rxExtMesgsEnable trueFalse.rtest], s⟩

/-- The four methods that request a message of the device. -/
inductive Request
  | capabilities
  | serialNum
  | version
  | advancedBurstCapabilities
  deriving DecidableEq, Repr

def Request.messageId : Request → UInt8
  | .capabilities => mesgCapabilitiesId
  | .serialNum => mesgGetSerialNumId
  | .version => mesgVersionId
  | .advancedBurstCapabilities => mesgConfigAdvBurstId

/-- `rant_s_request_capabilities`, `rant_s_request_serial_num`,
`rant_s_request_version` and `rant_s_request_advanced_burst_capabilities`. -/
def rantSRequest (s : State) (r : Request) (ok : Bool) : Outcome :=
  ⟨.ok (qbool ok), [.requestMessage 0 r.messageId], s⟩

/-- `rant_channel_open`. -/
def rantChannelOpen (s : State) (ch : RantChannel) (timeout : Value) (ok : Bool) : Outcome :=
  callLibrary s ((Channel.optionalUint timeout).map (.openChannelRTO ch.channelNum))
    (if ok then .ok .true else .error (.runtimeError "Failed to open the channel."))

/-- The methods that make library calls, with their arguments and with what
the library answers; an omitted argument is `nil`. -/
inductive Method
  | libVersion (version : List UInt8)
  | deviceUsbInfo (deviceNum : Value)
  | deviceUsbPid (pid : UInt16)
  | deviceUsbVid (vid : UInt16)
  | deviceSerialNumber (serial : Option UInt32)
  | initialized (built : Bool)
  | logDirectory (directory : Value)
  | init (deviceNum baudRate : Value)
  | close
  | reset
  | setNetworkKey (number key : Value)
  | transmitPower (power : Value)
  | assignChannel (a : AssignArgs)
  | useExtendedMessages (trueFalse : Value)
  | configureAdvancedBurst (enabled maxPacketLength requiredFields optionalFields stallCount
      retryCount : Value)
  | onResponse (block : Option ResponseBlock)
  | request (r : Request)
  | openChannel (o : ObjId) (timeout : Value)
  | closeChannel (o : ObjId) (timeout : Value)
  | set (o : ObjId) (p : Setter)
  | send (o : ObjId) (path : SendPath) (data : List UInt8)
  | onEvent (o : ObjId) (block : Option Block)
  deriving DecidableEq, Repr

/-- An operation on the channels. -/
def Outcome.ofChannel {α : Type} (s : State) (r : Channel.Outcome α) : Outcome :=
  ⟨r.value.map fun _ => .true, r.calls.map .channel, { s with chan := r.state }⟩

/-- A method; `ok` is whether its library call succeeds. `none`: there is no
such object. The value of `Ant.assign_channel`, the new channel, is not told
from `true`. -/
def perform (s : State) (m : Method) (ok : Bool) : Option Outcome :=
  match m with
  | .libVersion version => some ⟨.ok (.str version), [.libVersion], s⟩
  | .deviceUsbInfo deviceNum => some (rantSDeviceUsbInfo s deviceNum ok)
  | .deviceUsbPid pid => some (rantSDeviceUsbPid s pid ok)
  | .deviceUsbVid vid => some (rantSDeviceUsbVid s vid ok)
  | .deviceSerialNumber serial => some (rantSDeviceSerialNumber s serial)
  | .initialized built => some (rantSInitializedP s built ok)
  | .logDirectory directory => some (rantSLogDirectoryEq s directory ok)
  | .init deviceNum baudRate => some (rantSInit s deviceNum baudRate ok)
  | .close => some (.ofChannel s (Channel.rantSClose s.chan))
  | .reset => some (.ofChannel s (Channel.rantSReset s.chan))
  | .setNetworkKey number key =>
    some (callLibrary s
      ((Channel.networkKeyCall number key).map fun c => .setNetworkKey c.1 c.2)
      (Channel.rantSSetNetworkKey number key ok))
  | .transmitPower power =>
    let r := Channel.rantSTransmitPowerEq power ok
    some ⟨r.1, r.2.map .setting, s⟩
  | .assignChannel a => some (.ofChannel s (Channel.rantSAssignChannel s.chan a ok))
  | .useExtendedMessages trueFalse => some (rantSUseExtendedMessagesEq s trueFalse)
  | .configureAdvancedBurst enabled maxPacketLength requiredFields optionalFields stallCount
      retryCount =>
    some (callLibrary s
      ((Response.rantSConfigureAdvancedBurst enabled maxPacketLength requiredFields optionalFields
        stallCount retryCount).map .configureAdvancedBurst)
      (.ok (qbool ok)))
  | .onResponse block =>
    match Response.rantSOnResponse s.session block with
    | .error e => some ⟨.error e, [], s⟩
    | .ok session => some ⟨.ok .true, [.assignResponseFunction], { s with session := session }⟩
  | .request r => some (rantSRequest s r ok)
  | .openChannel o timeout =>
    (s.chan.objects o).map fun ch => rantChannelOpen s ch.toRantChannel timeout ok
  | .closeChannel o timeout =>
    (s.chan.objects o).map fun ch =>
      .ofChannel s (Channel.rantChannelClose s.chan ch.toRantChannel timeout ok)
  | .set o p =>
    (s.chan.objects o).map fun ch =>
      let r := p.perform ch ok
      ⟨r.value, r.calls.map .setting, { s with chan := s.chan.setObject o r.channel }⟩
  | .send o path data =>
    (s.chan.objects o).map fun ch =>
      let r := path.send ch.toRantChannel data ok
      ⟨r.value, r.calls.map .send, s⟩
  | .onEvent o block =>
    (s.chan.objects o).map fun ch =>
      .ofChannel s (Channel.rantChannelOnEvent s.chan o ch block)

-- ---------------------------------------------------------------------------
-- One call
-- ---------------------------------------------------------------------------

/-- `Ant.assign_channel` has made its library call, and then `initialize` raises. -/
def Abandons (m : Method) (ok : Bool) : Prop :=
  ∃ a, m = .assignChannel a ∧ ok = true ∧ (Channel.assignCall a).isOk = true ∧
    (num2ushort a.channel).isOk = false

/-- The methods that raise where their library call fails. -/
def Method.heeds : Method → Bool
  | .deviceUsbPid _ | .deviceUsbVid _ | .init .. | .assignChannel _ | .openChannel ..
  | .closeChannel .. | .send _ .burst _ => true
  | .set _ p => p.checksResult
  | _ => false

/-- How a method can end. -/
inductive Ended (s : State) (m : Method) (ok : Bool) : Outcome → Prop
  -- its arguments do not convert, or are not accepted
  | rejected (e : RubyError) : Ended s m ok ⟨.error e, [], s⟩
  -- the library call fails
  | refused (e : RubyError) (c : Call) (hok : ok = false) (hheeds : m.heeds = true) :
      Ended s m ok ⟨.error e, [c], s⟩
  | returned (v : Value) (c : Call) (t : State) (h : ok = true ∨ m.heeds = false) :
      Ended s m ok ⟨.ok v, [c], t⟩
  -- the library has assigned the number, and `initialize` raises
  | abandoned (e : RubyError) (c : Call) (t : State) (h : Abandons m ok) :
      Ended s m ok ⟨.error e, [c], t⟩

section Calls

variable {s : State} {m : Method} {ok : Bool}

/-- A method that raises where its library call fails: its arguments do not
convert, the call fails, or it returns. -/
theorem ended_heeding {call : Except RubyError Call} {v : Value} {e : RubyError}
    (h : m.heeds = true) :
    Ended s m ok (callLibrary s call (if ok then .ok v else .error e)) := by
  cases call with
  | error e => exact .rejected e
  | ok c =>
    cases ok with
    | true => exact .returned v c s (.inl rfl)
    | false => exact .refused e c rfl h

/-- A method that returns whatever its library call does. -/
theorem ended_unheeding {call : Except RubyError Call} {v : Value} (h : m.heeds = false) :
    Ended s m ok (callLibrary s call (.ok v)) := by
  cases call with
  | error e => exact .rejected e
  | ok c => exact .returned v c s (.inr h)

/-- `Ant.set_network_key` logs the failure and returns. -/
theorem ended_setNetworkKey (number key : Value) :
    Ended s (.setNetworkKey number key) ok (callLibrary s
      ((Channel.networkKeyCall number key).map fun c => .setNetworkKey c.1 c.2)
      (Channel.rantSSetNetworkKey number key ok)) := by
  rw [Channel.rantSSetNetworkKey]
  cases Channel.networkKeyCall number key with
  | error e => exact .rejected e
  | ok c => exact .returned .true _ s (.inr rfl)

/-- `Ant.transmit_power=` returns whether its call succeeded. -/
theorem ended_transmitPower (power : Value) :
    Ended s (.transmitPower power) ok ⟨(Channel.rantSTransmitPowerEq power ok).1,
      (Channel.rantSTransmitPowerEq power ok).2.map .setting, s⟩ := by
  unfold Channel.rantSTransmitPowerEq
  cases Channel.transmitPowerCall power with
  | error e => exact .rejected e
  | ok c => exact .returned _ _ s (.inr rfl)

/-- `Ant.assign_channel` is the one method with something left to fail behind
its library call: the library has then assigned the number, and `initialize`,
which converts the channel argument once more, can still raise. -/
theorem ended_assignChannel (a : AssignArgs) :
    Ended s (.assignChannel a) ok (.ofChannel s (Channel.rantSAssignChannel s.chan a ok)) := by
  cases hc : Channel.assignCall a with
  | error e =>
    rw [Channel.assign_rejected hc]
    exact .rejected e
  | ok c =>
    cases ok with
    | false =>
      obtain ⟨e, he⟩ := Channel.assign_refused (s := s.chan) hc
      rw [he]
      exact .refused e _ rfl rfl
    | true =>
      simp only [Outcome.ofChannel, Channel.rantSAssignChannel, hc, if_true, Channel.newInstance,
        Channel.rantChannelInit]
      cases hu : num2ushort a.channel with
      | error e => exact .abandoned e _ _ ⟨a, rfl, rfl, by rw [hc]; rfl, by rw [hu]; rfl⟩
      | ok u => exact .returned .true _ _ (.inl rfl)

/-- `close` changes the registry when its library call has succeeded. -/
theorem ended_closeChannel (o : ObjId) (ch : RantChannel) (timeout : Value) :
    Ended s (.closeChannel o timeout) ok
      (.ofChannel s (Channel.rantChannelClose s.chan ch timeout ok)) := by
  unfold Channel.rantChannelClose
  cases Channel.optionalUint timeout with
  | error e => exact .rejected e
  | ok ulResponseTime =>
    cases ok with
    | true => exact .returned .true _ _ (.inl rfl)
    | false => exact .refused _ _ rfl rfl

/-- A setting that raises leaves its channel as it was, and so the whole
state: the object written back to the heap is the one that was read from
it. -/
theorem ended_set {o : ObjId} {ch : Channel.ChannelObject} (ho : s.chan.objects o = some ch)
    (p : Setter) :
    Ended s (.set o p) ok ⟨(p.perform ch ok).value, (p.perform ch ok).calls.map .setting,
      { s with chan := s.chan.setObject o (p.perform ch ok).channel }⟩ := by
  have hsame : { s with chan := s.chan.setObject o ch } = s := by
    rw [Channel.State.setObject, ← ho, Function.update_eq_self]
  cases hc : p.call ch.channelNum with
  | error e =>
    rw [Setter.perform_rejected hc, hsame]
    exact .rejected e
  | ok c =>
    by_cases hrec : ok = true ∨ p.checksResult = false
    · rw [Setter.perform_recorded hc hrec]
      exact .returned .true _ _ hrec
    · obtain ⟨hok, hchecks⟩ := not_or.mp hrec
      obtain rfl : ok = false := by simpa using hok
      have hheeds : p.checksResult = true := by simpa using hchecks
      rw [Setter.perform_failed hc hheeds, hsame]
      exact .refused _ _ rfl hheeds

/-- Of the send methods only `send_burst_transfer` raises for its library
call. The others return `true` once they have got to theirs; what they convert
can raise before. -/
theorem ended_send (o : ObjId) (path : SendPath) (ch : RantChannel) (data : List UInt8) :
    Ended s (.send o path data) ok
      ⟨(path.send ch data ok).value, (path.send ch data ok).calls.map .send, s⟩ := by
  cases path with
  | burst =>
    cases ok with
    | true => exact .returned .true _ s (.inl rfl)
    | false => exact .refused _ _ rfl rfl
  | acknowledged | broadcast =>
    simp only [SendPath.send, Channel.rantChannelSendAcknowledgedData,
      Channel.rantChannelSendBroadcastData, Channel.sendSinglePacket]
    cases Channel.tempBuffer (.str data) with
    | error e => exact .rejected e
    | ok aucTempBuffer => exact .returned .true _ s (.inr rfl)
  | advanced packets =>
    simp only [SendPath.send, Channel.rantChannelSendAdvancedTransfer]
    cases Channel.stdPcktsPerSerialMsg packets with
    | error e => exact .rejected e
    | ok ucStdPcktsPerSerialMsg => exact .returned .true _ s (.inr rfl)

/-- **One call.** Every method ends in one of the four ways. The cases are
grouped by what the methods have in common: those that heed their library
call, those that do not, those with nothing to convert, and the ones that
change what the extension keeps. -/
theorem ended_of_perform {r : Outcome} (hr : perform s m ok = some r) : Ended s m ok r := by
  cases m with
  | deviceUsbPid | deviceUsbVid | init =>
    obtain rfl := Option.some.inj hr
    exact ended_heeding rfl
  | deviceUsbInfo | initialized | logDirectory | configureAdvancedBurst =>
    obtain rfl := Option.some.inj hr
    exact ended_unheeding rfl
  | deviceSerialNumber serial =>
    obtain rfl := Option.some.inj hr
    cases serial with
    | none => exact .rejected _
    | some serial => exact .returned _ _ s (.inr rfl)
  | libVersion | close | reset | useExtendedMessages | request =>
    obtain rfl := Option.some.inj hr
    exact .returned _ _ _ (.inr rfl)
  | setNetworkKey number key =>
    obtain rfl := Option.some.inj hr
    exact ended_setNetworkKey number key
  | transmitPower power =>
    obtain rfl := Option.some.inj hr
    exact ended_transmitPower power
  | assignChannel a =>
    obtain rfl := Option.some.inj hr
    exact ended_assignChannel a
  | onResponse block =>
    cases block with
    | none =>
      obtain rfl := Option.some.inj hr
      exact .rejected _
    | some b =>
      obtain rfl := Option.some.inj hr
      exact .returned _ _ _ (.inr rfl)
  | openChannel o timeout =>
    obtain ⟨ch, -, rfl⟩ := Option.map_eq_some_iff.mp hr
    exact ended_heeding rfl
  | closeChannel o timeout =>
    obtain ⟨ch, -, rfl⟩ := Option.map_eq_some_iff.mp hr
    exact ended_closeChannel o ch.toRantChannel timeout
  | set o p =>
    obtain ⟨ch, ho, rfl⟩ := Option.map_eq_some_iff.mp hr
    exact ended_set ho p
  | send o path data =>
    obtain ⟨ch, -, rfl⟩ := Option.map_eq_some_iff.mp hr
    exact ended_send o path ch.toRantChannel data
  | onEvent o block =>
    obtain ⟨ch, -, rfl⟩ := Option.map_eq_some_iff.mp hr
    cases block with
    | none => exact .rejected _
    | some b => exact .returned _ _ _ (.inr rfl)

/-- A call that raises changes nothing, unless it abandons an assignment. -/
theorem Ended.raised {r : Outcome} {e : RubyError} (h : Ended s m ok r) (he : r.value = .error e) :
    (r.state = s ∧ (r.calls = [] ∨ ok = false)) ∨ Abandons m ok := by
  cases h with
  | rejected => exact .inl ⟨rfl, .inl rfl⟩
  | refused _ _ hok => exact .inl ⟨rfl, .inr hok⟩
  | returned => cases he
  | abandoned _ _ _ hab => exact .inr hab

/-- An abandoned assignment leaves an object without a number behind. -/
theorem abandoned_state_ne {r : Outcome} (h : Abandons m ok) (hr : perform s m ok = some r) :
    r.state ≠ s := by
  obtain ⟨a, rfl, rfl, hc, hu⟩ := h
  obtain ⟨c, hc⟩ := Except.isOk_iff.mp hc
  obtain ⟨e, hu⟩ := Except.isOk_eq_false_iff.mp hu
  obtain rfl := Option.some.inj hr
  simp only [Outcome.ofChannel, Channel.rantSAssignChannel, hc, if_true, Channel.newInstance,
    Channel.rantChannelInit, hu]
  intro heq
  exact Nat.succ_ne_self s.chan.nextId (congrArg (fun x : State => x.chan.nextId) heq)

/-- A library call that is made and fails: the method raises exactly if it heeds it. -/
theorem Ended.failed {r : Outcome} (h : Ended s m false r) (hne : r.calls ≠ []) :
    (∃ e, r.value = .error e) ↔ m.heeds = true := by
  cases h with
  | rejected => exact absurd rfl hne
  | refused e _ _ hheeds => exact iff_of_true ⟨e, rfl⟩ hheeds
  | returned v _ _ hreturned =>
    have hheeds : m.heeds = false := hreturned.resolve_left Bool.false_ne_true
    refine iff_of_false ?_ (by rw [hheeds]; exact Bool.false_ne_true)
    rintro ⟨e, he⟩
    cases he
  | abandoned _ _ _ hab =>
    obtain ⟨a, -, hok, -⟩ := hab
    cases hok

theorem Ended.single {r : Outcome} (h : Ended s m ok r) : r.calls.length ≤ 1 := by
  cases h with
  | rejected => exact Nat.zero_le 1
  | refused | returned | abandoned => exact Nat.le_refl 1

end Calls

-- ---------------------------------------------------------------------------
-- Runs
-- ---------------------------------------------------------------------------

/-- The program calls a method, or the collector frees a channel object. -/
inductive Action
  | call (m : Method) (ok : Bool)
  | gc (o : ObjId)
  deriving DecidableEq, Repr

def step (s : State) : Action → Option State
  | .call m ok => (perform s m ok).map fun r => r.state
  | .gc o => (Channel.step s.chan (.gc o)).map fun chan => { s with chan := chan }

/-- The library calls of an action that succeed. -/
def accepted (s : State) : Action → Option (List Call)
  | .call m ok =>
    (perform s m ok).bind fun r => if ok ∧ r.calls ≠ [] then some r.calls else none
  | .gc o => (s.chan.objects o).map fun ch =>
    (Channel.rantChannelFree s.chan o ch.toRantChannel).calls.map .channel

/-- The method returns. -/
def Returns (s : State) : Action → Prop
  | .call m ok => ∀ r, perform s m ok = some r → r.value.isOk = true
  | .gc _ => True

/-- The action abandons no assignment. -/
def Completes : Action → Prop
  | .call m ok => ¬ Abandons m ok
  | .gc _ => True

/-- **Step.** A call that raises changes nothing, and nothing that the library
accepts: where its library call was made, that failed. An abandoned assignment
is the exception, which the side condition keeps out. -/
theorem returns_or_idle {s : State} {log : List (List Call)} {a : Action}
    {y : State × List (List Call)} (h : Completes a)
    (hs : Lts.logged step accepted (s, log) a = some y) : Returns s a ∨ y = (s, log) := by
  obtain ⟨t, log'⟩ := y
  obtain ⟨hstep, hlog⟩ := Lts.logged_eq_some.mp hs
  cases a with
  | gc o => exact .inl trivial
  | call m ok =>
    obtain ⟨r, hr, rfl⟩ := Option.map_eq_some_iff.mp hstep
    cases hv : r.value with
    | ok v =>
      refine .inl fun r' hr' => ?_
      rw [hr, Option.some.injEq] at hr'
      rw [← hr', hv]
      rfl
    | error e =>
      obtain ⟨hstate, hcalls⟩ := ((ended_of_perform hr).raised hv).resolve_right h
      have hnone : accepted s (.call m ok) = none := by
        rw [accepted, hr, Option.bind_some, if_neg]
        rintro ⟨hok, hne⟩
        rcases hcalls with hnil | hfalse
        · exact hne hnil
        · rw [hfalse] at hok
          cases hok
      rw [show log' = log ++ (accepted s (.call m ok)).toList from hlog, hnone,
        Option.toList_none, List.append_nil]
      exact .inr (Prod.ext hstate rfl)

/-- **Raising leaves no trace.** A method makes at most one library call.
Where it raises, that call was not made or failed, and nothing has changed,
unless it abandons an assignment; and a library call that fails makes exactly
the methods raise that heed it. So the calls that raise can be left out of any
run that abandons no assignment: the rest leads to the same state, and the
library accepts the same calls. -/
theorem raising_traceless :
    (∀ s m ok r, perform s m ok = some r → r.calls.length ≤ 1 ∧
      (∀ e, r.value = .error e → (r.state ≠ s ↔ Abandons m ok) ∧
        (r.calls ≠ [] → ok = false ∨ Abandons m ok)) ∧
      (ok = false → r.calls ≠ [] → ((∃ e, r.value = .error e) ↔ m.heeds = true))) ∧
    ∀ s as t log,
      Lts.Exec (Lts.logged step accepted) (fun _ a => Completes a) (s, []) as (t, log) →
      ∃ bs, bs.Sublist as ∧
        Lts.Exec (Lts.logged step accepted) (fun x a => Returns x.1 a) (s, []) bs (t, log) := by
  refine ⟨fun s m ok r hr => ?_, fun s as t log hrun => ?_⟩
  · have hended : Ended s m ok r := ended_of_perform hr
    refine ⟨hended.single, fun e he => ⟨⟨fun hne => ?_, fun hab => ?_⟩, fun hne => ?_⟩, ?_⟩
    · exact (hended.raised he).resolve_left fun h => hne h.1
    · exact abandoned_state_ne hab hr
    · rcases hended.raised he with ⟨-, hnil | hok⟩ | hab
      · exact absurd hnil hne
      · exact .inl hok
      · exact .inr hab
    · rintro rfl hne
      exact hended.failed hne
  · refine hrun.drop_idle fun x a y hcomp hs => ?_
    exact returns_or_idle hcomp hs

end AntWireless.Api
