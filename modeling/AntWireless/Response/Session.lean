import AntWireless.Lib.LastWrite
import AntWireless.Response.Dispatch
import AntWireless.Response.History

/-!
# AntWireless — what is known about the device

`Ant.on_response` sets the response callback and assigns the response function. For each
response the library writes to its buffer and calls that function, which returns when the
callback thread has called the callback that is set by then.

* `Session`, `sessionStep` — the callback, the buffer, the call in progress and what is
  stored about the device.
* `Explained` — the calls of a run are those of the responses reported, in their order; and
  what is known about the device is what the last call that carries it says.
* `session_explained` — that holds at the end of every run.
-/

namespace AntWireless.Response

open Channel (State)

-- ---------------------------------------------------------------------------
-- The session
-- ---------------------------------------------------------------------------

/-- A block given to `Ant.on_response`: the method object that
`set_response_handler` passes, or one of the application, which stores nothing
about the device. -/
inductive ResponseBlock
  | handleResponseCallback
  | application (id : Nat)
  deriving DecidableEq, Repr

/-- `callback` is `@response_callback`; `assigned` says that the library has
`rant_on_response_callback`, and `call` is the response it is handling. -/
structure Session where
  callback : Option ResponseBlock
  assigned : Bool
  pucResponseBuffer : List UInt8
  call : Option ResponseMessage
  info : DeviceInfo
  deriving DecidableEq, Repr

def sessionInit : Session := ⟨none, false, initialResponseBuffer, none, noInfo⟩

/-- `rant_s_on_response`. -/
def rantSOnResponse (s : Session) : Option ResponseBlock → Except RubyError Session
  | none => .error (.localJumpError "block required, but not given")
  | some block => .ok { s with callback := some block, assigned := true }

/-- The call of the block with the channel, the message ID and the data. -/
def callBlock (depth : Nat) (chan : State) (info : DeviceInfo) (m : ResponseMessage)
    (data : List UInt8) : ResponseBlock → DeviceInfo
  | .handleResponseCallback =>
    (handleResponseCallback depth chan info m.ucChannel (some m.ucResponseMessageId) data).info
  | .application _ => info

inductive SessionAction
  /-- `Ant.on_response`, with or without a block. -/
  | onResponse (block : Option ResponseBlock)
  /-- The library has a response, and calls the response function. -/
  | report (m : ResponseMessage)
  /-- The callback thread gets to the call. -/
  | handle (depth : Nat) (chan : State)

def sessionStep (s : Session) : SessionAction → Option Session
  | .onResponse block =>
    match rantSOnResponse s block with
    | .ok s' => some s'
    | .error _ => some s
  | .report m =>
    if s.assigned ∧ s.call = none then
      some { s with pucResponseBuffer := writeResponse s.pucResponseBuffer m, call := some m }
    else none
  | .handle depth chan =>
    s.call.map fun m =>
      match s.callback with
      | some block =>
        let data := rantCallResponseCallback s.pucResponseBuffer
        { s with call := none, info := callBlock depth chan s.info m data block }
      | none => { s with call := none }

/-- The stack has room for `handle_response_callback`, and for the command
that a response event answers. -/
def Room (_ : Session) : SessionAction → Prop
  | .handle depth _ => 2 ≤ depth
  | _ => True

instance (s : Session) : ∀ a, Decidable (Room s a)
  | .handle depth _ => inferInstanceAs (Decidable (2 ≤ depth))
  | .onResponse _ | .report _ => inferInstanceAs (Decidable True)

-- ---------------------------------------------------------------------------
-- What a run shows
-- ---------------------------------------------------------------------------

/-- A call of a block for a response. -/
structure ResponseCall where
  block : ResponseBlock
  message : ResponseMessage
  data : List UInt8
  deriving DecidableEq, Repr

inductive SessionEvent
  | reported (m : ResponseMessage)
  | called (c : ResponseCall)
  | unset (m : ResponseMessage)
  deriving DecidableEq, Repr

/-- What a step shows; `unset` is a response with no callback to call. -/
def sessionObserve (s : Session) : SessionAction → Option SessionEvent
  | .onResponse _ => none
  | .report m => some (.reported m)
  | .handle _ _ =>
    s.call.map fun m =>
      match s.callback with
      | some block => .called ⟨block, m, rantCallResponseCallback s.pucResponseBuffer⟩
      | none => .unset m

def SessionEvent.message : SessionEvent → Option ResponseMessage
  | .reported m => some m
  | _ => none

def SessionEvent.call : SessionEvent → Option ResponseCall
  | .called c => some c
  | _ => none

/-- The responses of a log, and the calls. -/
def reports (log : List SessionEvent) : List ResponseMessage := log.filterMap SessionEvent.message

def calls (log : List SessionEvent) : List ResponseCall := log.filterMap SessionEvent.call

/-- Each response with the data string that it gets after the ones before it. -/
def withData (history : List ResponseMessage) :
    List ResponseMessage → List (ResponseMessage × List UInt8)
  | [] => []
  | m :: ms => (m, responseData history m) :: withData (history ++ [m]) ms

-- ---------------------------------------------------------------------------
-- What a call says about the device
-- ---------------------------------------------------------------------------

/-- The message ID whose method the call ends in: for a response event, that
of the command it answers. -/
def ResponseCall.handledAs (c : ResponseCall) : Option UInt8 :=
  if c.block ≠ .handleResponseCallback then none
  else if c.message.ucResponseMessageId = mesgResponseEventId then c.data[1]?
  else some c.message.ucResponseMessageId

/-- What the data says, if the call ends in the method of the message `id`. -/
def ResponseCall.carried {γ : Type} (c : ResponseCall) (id : UInt8)
    (read : List UInt8 → Option γ) : Option γ :=
  if c.handledAs = some id then read c.data else none

def ResponseCall.capabilities (c : ResponseCall) : Option Capabilities :=
  c.carried mesgCapabilitiesId fun data => some (onCapabilities data)

def ResponseCall.serialNum (c : ResponseCall) : Option Nat :=
  c.carried mesgGetSerialNumId unpackSerial

def ResponseCall.hardwareVersion (c : ResponseCall) : Option (List UInt8) :=
  c.carried mesgVersionId fun data => some (strip data)

/-- The channel number of the message is the type of the reply. -/
def ResponseCall.advancedBurstCapabilities (c : ResponseCall) : Option AdvancedBurstCapabilities :=
  c.carried mesgConfigAdvBurstId fun data =>
    if c.message.ucChannel = 0 then some (unpackCapabilities data) else none

def ResponseCall.advancedBurstConfig (c : ResponseCall) : Option AdvancedBurstConfig :=
  c.carried mesgConfigAdvBurstId fun data =>
    if c.message.ucChannel = 1 then some (unpackConfig data) else none

/-- Each item is what the call says of it, or as before. -/
def ResponseCall.store (c : ResponseCall) (info : DeviceInfo) : DeviceInfo where
  capabilities := c.capabilities.or info.capabilities
  serialNum := c.serialNum.or info.serialNum
  hardwareVersion := c.hardwareVersion.or info.hardwareVersion
  advancedBurstCapabilities := c.advancedBurstCapabilities.or info.advancedBurstCapabilities
  advancedBurstConfig := c.advancedBurstConfig.or info.advancedBurstConfig

section Calls

variable {c : ResponseCall} {info : DeviceInfo} {id : UInt8}

/-- What a call says of an item, if it ends in a method at all. -/
theorem carried_handledAs {γ : Type} {id' : UInt8} {read : List UInt8 → Option γ}
    (hc : c.handledAs = some id) :
    c.carried id' read = if id = id' then read c.data else none := by
  rw [ResponseCall.carried, hc]
  simp only [Option.some.injEq]

/-- A call that ends in a method says something of that method's items only,
if its data has it; every other item stays. -/
theorem store_handledAs (hc : c.handledAs = some id) :
    c.store info =
      { capabilities :=
          (if id = mesgCapabilitiesId then some (onCapabilities c.data) else none).or
            info.capabilities
        serialNum :=
          (if id = mesgGetSerialNumId then unpackSerial c.data else none).or info.serialNum
        hardwareVersion :=
          (if id = mesgVersionId then some (strip c.data) else none).or info.hardwareVersion
        advancedBurstCapabilities :=
          (if id = mesgConfigAdvBurstId then
              if c.message.ucChannel = 0 then some (unpackCapabilities c.data) else none
            else none).or info.advancedBurstCapabilities
        advancedBurstConfig :=
          (if id = mesgConfigAdvBurstId then
              if c.message.ucChannel = 1 then some (unpackConfig c.data) else none
            else none).or info.advancedBurstConfig } := by
  simp only [ResponseCall.store, ResponseCall.capabilities, ResponseCall.serialNum,
    ResponseCall.hardwareVersion, ResponseCall.advancedBurstCapabilities,
    ResponseCall.advancedBurstConfig, carried_handledAs hc]

/-- A call that ends in none of the four methods says nothing. -/
theorem store_other (hc : c.handledAs = some id)
    (hid : id ∉ [mesgCapabilitiesId, mesgGetSerialNumId, mesgVersionId, mesgConfigAdvBurstId]) :
    c.store info = info := by
  simp only [List.mem_cons, List.not_mem_nil, or_false, not_or] at hid
  obtain ⟨hcaps, hserial, hversion, hburst⟩ := hid
  rw [store_handledAs hc, if_neg hcaps, if_neg hserial, if_neg hversion, if_neg hburst,
    if_neg hburst]
  rfl

/-- A response event without a byte for its command says nothing. -/
theorem store_none (hc : c.handledAs = none) : c.store info = info := by
  simp only [ResponseCall.store, ResponseCall.capabilities, ResponseCall.serialNum,
    ResponseCall.hardwareVersion, ResponseCall.advancedBurstCapabilities,
    ResponseCall.advancedBurstConfig, ResponseCall.carried, hc, reduceCtorEq, if_false,
    Option.none_or]

/-- The method of a message that is no response event stores what the call
says. The cases are the four messages that carry information, and all the
others. -/
theorem handle_store_id (hc : c.handledAs = some id) (hid : id ≠ mesgResponseEventId)
    (depth : Nat) (chan : State) (info : DeviceInfo) :
    (handleResponseCallback (depth + 1) chan info c.message.ucChannel (some id) c.data).info =
      c.store info := by
  obtain ⟨hcaps, hversion, hserial, hburst⟩ :=
    handle_information depth chan info c.message.ucChannel c.data
  by_cases hmem : id ∈ [mesgCapabilitiesId, mesgGetSerialNumId, mesgVersionId, mesgConfigAdvBurstId]
  · simp only [List.mem_cons, List.not_mem_nil, or_false] at hmem
    rcases hmem with rfl | rfl | rfl | rfl
    · rw [hcaps, store_handledAs hc]
      rfl
    · rw [hserial, onGetSerialNum, store_handledAs hc, if_pos rfl]
      cases unpackSerial c.data <;> rfl
    · rw [hversion, store_handledAs hc]
      rfl
    · rw [hburst, storeAdvancedBurst_info, store_handledAs hc, if_pos rfl, if_pos rfl]
      by_cases hzero : c.message.ucChannel = 0
      · rw [if_pos hzero, if_pos hzero, hzero]
        rfl
      · rw [if_neg hzero, if_neg hzero]
        split <;> rfl
  · have huntouched : Untouched id info
        (handleResponseCallback (depth + 1) chan info c.message.ucChannel (some id) c.data).info :=
      handle_untouched (depth + 1) hid
    rw [huntouched.eq hmem, store_other hc hmem]

/-- **Step.** With room for the command that a response event answers, the
call stores what it says: a block of the application nothing, and
`handle_response_callback` what the method does in which the dispatch ends. -/
theorem callBlock_eq {depth : Nat} (hdepth : 2 ≤ depth) (chan : State) (info : DeviceInfo)
    (c : ResponseCall) : callBlock depth chan info c.message c.data c.block = c.store info := by
  obtain ⟨depth, rfl⟩ : ∃ d, depth = d + 2 := ⟨depth - 2, by omega⟩
  cases hblock : c.block with
  | application id =>
    exact (store_none (by rw [ResponseCall.handledAs, hblock, if_pos (by simp)])).symm
  | handleResponseCallback =>
    rw [callBlock]
    by_cases hevent : c.message.ucResponseMessageId = mesgResponseEventId
    · have hc : c.handledAs = c.data[1]? := by
        rw [ResponseCall.handledAs, hblock, if_neg (by simp), if_pos hevent]
      rw [hevent, handle_responseEvent]
      cases hbyte : c.data[1]? with
      | none => exact (store_none (hc.trans hbyte)).symm
      | some id =>
        rw [hbyte] at hc
        by_cases hid : id = mesgResponseEventId
        · -- the event answers a response event, and so on until the stack is full
          rw [hid, handle_exhausts (hbyte.trans (congrArg some hid)),
            store_other hc (by rw [hid]; decide)]
        · exact handle_store_id hc hid depth chan info
    · have hc : c.handledAs = some c.message.ucResponseMessageId := by
        rw [ResponseCall.handledAs, hblock, if_neg (by simp), if_neg hevent]
      exact handle_store_id hc hevent (depth + 1) chan info

end Calls

-- ---------------------------------------------------------------------------
-- Runs
-- ---------------------------------------------------------------------------

/-- What the run of a session did. -/
structure Explained (s : Session) (log : List SessionEvent) : Prop where
  /-- One call for each response, in their order and with its data; the last may be to come. -/
  calls : (calls log).map (fun c => (c.message, c.data)) ++
      s.call.toList.map (fun m => (m, rantCallResponseCallback s.pucResponseBuffer)) =
    withData [] (reports log)
  capabilities : s.info.capabilities = Lts.lastWrite ResponseCall.capabilities (Response.calls log)
  serialNum : s.info.serialNum = Lts.lastWrite ResponseCall.serialNum (Response.calls log)
  hardwareVersion :
    s.info.hardwareVersion = Lts.lastWrite ResponseCall.hardwareVersion (Response.calls log)
  advancedBurstCapabilities : s.info.advancedBurstCapabilities =
    Lts.lastWrite ResponseCall.advancedBurstCapabilities (Response.calls log)
  advancedBurstConfig : s.info.advancedBurstConfig =
    Lts.lastWrite ResponseCall.advancedBurstConfig (Response.calls log)

theorem withData_append (history ms : List ResponseMessage) (m : ResponseMessage) :
    withData history (ms ++ [m]) =
      withData history ms ++ [(m, responseData (history ++ ms) m)] := by
  induction ms generalizing history with
  | nil => simp [withData]
  | cons m' ms ih => simp [withData, ih]

section Runs

variable {s s' : Session} {log : List SessionEvent} {a : SessionAction}

/-- The response function is assigned with a callback set, and the buffer is
what the responses left. -/
structure SessionInv (s : Session) (log : List SessionEvent) : Prop where
  set : s.assigned = true → s.callback ≠ none
  assigned : s.call ≠ none → s.assigned = true
  buffer : s.pucResponseBuffer = (reports log).foldl writeResponse initialResponseBuffer
  calls : (calls log).map (fun c => (c.message, c.data)) ++
      s.call.toList.map (fun m => (m, rantCallResponseCallback s.pucResponseBuffer)) =
    withData [] (reports log)

theorem sessionInv_init : SessionInv sessionInit [] :=
  ⟨by simp [sessionInit], by simp [sessionInit], rfl, rfl⟩

/-- **Step.** A report writes the buffer and waits for its handler; the
handler calls the block there is with the buffer's bytes, and the next report
has to wait for it. So the calls in the log are those of the reports before,
in their order. -/
theorem sessionInv_step (h : SessionInv s log) (hs : sessionStep s a = some s') :
    SessionInv s' (log ++ (sessionObserve s a).toList) := by
  cases a with
  | onResponse block =>
    cases block with
    | none =>
      obtain rfl : s = s' := Option.some.inj hs
      simpa [sessionObserve] using h
    | some block =>
      obtain rfl := Option.some.inj hs
      exact ⟨by simp, fun _ => rfl, by simpa [sessionObserve] using h.buffer,
        by simpa [sessionObserve] using h.calls⟩
  | report m =>
    rw [sessionStep] at hs
    split at hs
    · rename_i hen
      obtain rfl := Option.some.inj hs
      have hreports : reports (log ++ [.reported m]) = reports log ++ [m] := by
        simp [reports, SessionEvent.message]
      have hbuffer : writeResponse s.pucResponseBuffer m =
          (reports log ++ [m]).foldl writeResponse initialResponseBuffer := by
        rw [List.foldl_append, ← h.buffer]
        rfl
      have hcalls : (Response.calls log).map (fun c => (c.message, c.data)) =
          withData [] (reports log) := by
        simpa [hen.2] using h.calls
      refine ⟨h.set, fun _ => hen.1, ?_, ?_⟩
      · show _ = (reports (log ++ [.reported m])).foldl _ _
        rw [hreports]
        exact hbuffer
      · show (Response.calls (log ++ [.reported m])).map _ ++ _ =
          withData [] (reports (log ++ [.reported m]))
        rw [hreports, withData_append, ← hcalls]
        simp [Response.calls, SessionEvent.call, responseData, hbuffer]
    · cases hs
  | handle depth chan =>
    rw [sessionStep, Option.map_eq_some_iff] at hs
    obtain ⟨m, hm, rfl⟩ := hs
    have hassigned : s.assigned = true := h.assigned (by simp [hm])
    obtain ⟨block, hblock⟩ := Option.ne_none_iff_exists'.mp (h.set hassigned)
    have hcalls := h.calls
    rw [hm] at hcalls
    simp only [sessionObserve, hm, hblock, Option.map_some, Option.toList_some]
    have hreports : ∀ c, reports (log ++ [.called c]) = reports log := fun c => by
      rw [reports, List.filterMap_append]
      exact List.append_nil _
    refine ⟨by simp, by simp, ?_, ?_⟩
    · rw [hreports]
      exact h.buffer
    · rw [hreports]
      simpa [Response.calls, SessionEvent.call] using hcalls

/-- **Step.** What is known about the device changes by the calls, and a call
stores what it says; no other step touches it. -/
theorem info_step (hroom : Room s a) (hs : sessionStep s a = some s') :
    s'.info = ((sessionObserve s a).bind SessionEvent.call).elim s.info
      fun c => c.store s.info := by
  cases a with
  | onResponse block =>
    cases block with
    | none =>
      obtain rfl := Option.some.inj hs
      rfl
    | some block =>
      obtain rfl := Option.some.inj hs
      rfl
  | report m =>
    rw [sessionStep] at hs
    split at hs
    · obtain rfl := Option.some.inj hs
      rfl
    · cases hs
  | handle depth chan =>
    rw [sessionStep, Option.map_eq_some_iff] at hs
    obtain ⟨m, hm, rfl⟩ := hs
    rw [sessionObserve, hm]
    cases hblock : s.callback with
    | none => rfl
    | some block =>
      exact callBlock_eq hroom chan s.info
        ⟨block, m, rantCallResponseCallback s.pucResponseBuffer⟩

theorem lastWrite_calls {γ : Type} (val : ResponseCall → Option γ) (log : List SessionEvent) :
    Lts.lastWrite (fun e : SessionEvent => e.call.bind val) log =
      Lts.lastWrite val (Response.calls log) := by
  rw [Lts.lastWrite, Lts.lastWrite, Response.calls, List.filterMap_filterMap]

/-- **Run.** An item of the information about the device, that calls set and
nothing else, is at the end of a run what the last call said of it that said
something. -/
theorem item_exec {γ : Type} {item : DeviceInfo → Option γ} {val : ResponseCall → Option γ}
    (hitem : ∀ (c : ResponseCall) info, item (c.store info) = (val c).or (item info))
    {as : List SessionAction} (hinit : item noInfo = none)
    (hrun : Lts.Exec (Lts.logged sessionStep sessionObserve) (fun x a => Room x.1 a)
      (sessionInit, []) as (s, log)) :
    item s.info = Lts.lastWrite val (Response.calls log) := by
  have hwrites : Lts.Writes sessionStep Room sessionObserve (fun s => item s.info)
      (fun e => e.call.bind val) := by
    intro s a s' hroom hs
    show item s'.info = _
    rw [info_step hroom hs, ← Option.bind_assoc]
    cases (sessionObserve s a).bind SessionEvent.call with
    | none => rfl
    | some c => exact hitem c s.info
  have hlast := hwrites.exec hrun
  rw [lastWrite_calls] at hlast
  rw [hlast]
  show (Lts.lastWrite val (Response.calls log)).or (item noInfo) = _
  rw [hinit, Option.or_none]

end Runs

/-- The version is asked for, and a command acknowledged after it; the
application takes the third response itself. -/
def versionThenCommand : List SessionAction :=
  [.onResponse none, .onResponse (some .handleResponseCallback), .report versionMessage,
    .handle 2 Channel.init, .report ⟨0, mesgResponseEventId, [0, mesgNetworkKeyId, 0], by decide⟩,
    .handle 2 Channel.init, .onResponse (some (.application 1)), .report longMessage]

end AntWireless.Response
