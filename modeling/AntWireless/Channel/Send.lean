import AntWireless.Channel.Model

/-!
# AntWireless — the send methods

The four methods that hand a payload to the library. `send_burst_transfer` and
`send_advanced_transfer` send any number of 8-byte packets, `send_acknowledged_data`
and `send_broadcast_data` one. All four copy the payload with `strncpy`.

* `rantChannelSendBurstTransfer`, `rantChannelSendAcknowledgedData`,
  `rantChannelSendBroadcastData`, `rantChannelSendAdvancedTransfer` — what each
  returns or raises and the library calls it makes.
* `payload_fidelity_iff` — the library gets the payload and zeros exactly when the
  payload has nothing but zeros after its first zero.
* `packetsCover_iff` — the packet count, an unsigned short, covers the buffer exactly when
  that has no more than 65535 packets.
-/

namespace AntWireless.Channel

-- ---------------------------------------------------------------------------
-- The methods
-- ---------------------------------------------------------------------------

/-- The library calls of the send methods; `data` is the memory the argument
points to. -/
inductive SendCall
  | sendBurstTransfer (n : UInt8) (data : List UInt8) (usNumDataPackets : UInt16)
  | sendAcknowledgedData (n : UInt8) (data : List UInt8)
  | sendBroadcastData (n : UInt8) (data : List UInt8)
  | sendAdvancedBurstRTO (n : UInt8) (data : List UInt8) (usNumDataPackets : UInt16)
      (ucStdPcktsPerSerialMsg : UInt8) (timeout : UInt32)
  deriving DecidableEq, Repr

def SendCall.data : SendCall → List UInt8
  | .sendBurstTransfer _ data _ | .sendAcknowledgedData _ data | .sendBroadcastData _ data
  | .sendAdvancedBurstRTO _ data _ _ _ => data

/-- A send method returns or raises, and makes library calls. -/
structure SendOutcome where
  value : Except RubyError Value
  calls : List SendCall
  deriving DecidableEq, Repr

/-- `data_s` and `usNumDataPackets`, as the burst and the advanced method
compute them. -/
def paddedPackets (data : List UInt8) : List UInt8 × UInt16 :=
  let usNumDataPackets := UInt16.ofNat (data.length / 8)
  let remainingBytes := data.length % 8
  let dataS := Bytes.strncpy data.length data
  if remainingBytes = 0 then (dataS, usNumDataPackets)
  else (dataS ++ List.replicate (8 - remainingBytes) 0, usNumDataPackets + 1)

/-- `aucTempBuffer`, as the acknowledged and the broadcast method fill it. -/
def tempBuffer (data : Value) : Except RubyError (List UInt8) := do
  let bytes ← stringValue data
  if 8 < bytes.length then .error (.argError "Data can't be longer than 8 bytes.")
  else .ok (Bytes.overlay (Bytes.strncpy bytes.length bytes) (List.replicate 8 0))

/-- `rant_channel_send_burst_transfer`; `ok` is whether the library call
succeeds. Its `data` is a String: the length is read before anything checks
that. -/
def rantChannelSendBurstTransfer (ch : RantChannel) (data : List UInt8) (ok : Bool) :
    SendOutcome :=
  let (dataS, usNumDataPackets) := paddedPackets data
  ⟨if ok then .ok .true else .error (.runtimeError "failed to send burst transfer."),
    [.sendBurstTransfer ch.channelNum dataS usNumDataPackets]⟩

/-- The acknowledged and the broadcast method differ in the library call only,
and do not look at its result. -/
def sendSinglePacket (call : List UInt8 → SendCall) (data : Value) : SendOutcome :=
  match tempBuffer data with
  | .error e => ⟨.error e, []⟩
  | .ok aucTempBuffer => ⟨.ok .true, [call aucTempBuffer]⟩

/-- `rant_channel_send_acknowledged_data`. -/
def rantChannelSendAcknowledgedData (ch : RantChannel) (data : Value) : SendOutcome :=
  sendSinglePacket (.sendAcknowledgedData ch.channelNum) data

/-- `rant_channel_send_broadcast_data`. -/
def rantChannelSendBroadcastData (ch : RantChannel) (data : Value) : SendOutcome :=
  sendSinglePacket (.sendBroadcastData ch.channelNum) data

/-- `DEFAULT_ADV_PACKETS`. -/
def defaultAdvPackets : UInt8 := 3

/-- `ADVANCED_BURST_TIMEOUT`. -/
def advancedBurstTimeout : UInt32 := 5

/-- `ucStdPcktsPerSerialMsg`, from an argument that is `nil` when omitted. -/
def stdPcktsPerSerialMsg (packets : Value) : Except RubyError UInt8 :=
  if packets.rtest then num2chr packets else .ok defaultAdvPackets

/-- `rant_channel_send_advanced_transfer`, where the library has it. A
transfer that fails is logged only. -/
def rantChannelSendAdvancedTransfer (ch : RantChannel) (data : List UInt8) (packets : Value)
    (_ok : Bool) : SendOutcome :=
  match stdPcktsPerSerialMsg packets with
  | .error e => ⟨.error e, []⟩
  | .ok ucStdPcktsPerSerialMsg =>
    let (dataS, usNumDataPackets) := paddedPackets data
    ⟨.ok .true, [.sendAdvancedBurstRTO ch.channelNum dataS usNumDataPackets
      ucStdPcktsPerSerialMsg advancedBurstTimeout]⟩

-- ---------------------------------------------------------------------------
-- The four paths
-- ---------------------------------------------------------------------------

/-- A send method, with its arguments other than the payload. -/
inductive SendPath
  | burst
  | acknowledged
  | broadcast
  | advanced (packets : Value)
  deriving DecidableEq, Repr

namespace SendPath

def send (p : SendPath) (ch : RantChannel) (data : List UInt8) (ok : Bool) : SendOutcome :=
  match p with
  | .burst => rantChannelSendBurstTransfer ch data ok
  | .acknowledged => rantChannelSendAcknowledgedData ch (.str data)
  | .broadcast => rantChannelSendBroadcastData ch (.str data)
  | .advanced packets => rantChannelSendAdvancedTransfer ch data packets ok

/-- The arguments with which a path gets to its library call. -/
def Accepts (p : SendPath) (data : List UInt8) : Prop :=
  match p with
  | .burst => True
  | .acknowledged | .broadcast => data.length ≤ 8
  | .advanced packets => ∃ c, stdPcktsPerSerialMsg packets = .ok c

/-- The size of the buffer that holds the payload: the next multiple of 8, or 8. -/
def bufferSize (p : SendPath) (data : List UInt8) : Nat :=
  match p with
  | .burst | .advanced _ => (data.length + 7) / 8 * 8
  | .acknowledged | .broadcast => 8

/-- The buffers handed to the library. -/
def buffers (p : SendPath) (ch : RantChannel) (data : List UInt8) (ok : Bool) :
    List (List UInt8) :=
  (p.send ch data ok).calls.map SendCall.data

/-- The payload, followed by zeros. -/
def padded (p : SendPath) (data : List UInt8) : List UInt8 := data.rightpad (p.bufferSize data) 0

end SendPath

-- ---------------------------------------------------------------------------
-- Fidelity
-- ---------------------------------------------------------------------------

/-- The burst and the advanced method copy with `strncpy` into a buffer of
zeros whose length is the next multiple of eight. -/
theorem paddedPackets_data (data : List UInt8) :
    (paddedPackets data).1 =
      (Bytes.strncpy data.length data).rightpad ((data.length + 7) / 8 * 8) 0 := by
  unfold paddedPackets List.rightpad
  simp only [Bytes.length_strncpy]
  split
  · rename_i hrem
    have hpad : (data.length + 7) / 8 * 8 - data.length = 0 := by omega
    rw [hpad, List.replicate_zero, List.append_nil]
  · rename_i hrem
    have hpad : (data.length + 7) / 8 * 8 - data.length = 8 - data.length % 8 := by omega
    rw [hpad]

/-- The other two copy into eight bytes of zeros. -/
theorem tempBuffer_str {data : List UInt8} (hlen : data.length ≤ 8) :
    tempBuffer (.str data) = .ok ((Bytes.strncpy data.length data).rightpad 8 0) := by
  have hlt : ¬ 8 < data.length := by omega
  show (if 8 < data.length then _ else _) = _
  rw [if_neg hlt, Bytes.overlay_replicate]

/-- On every path the library gets one buffer: what `strncpy` copies, and
zeros up to its size. Where the library call fails it has been made as
well. -/
theorem buffers_eq {p : SendPath} {data : List UInt8} (h : p.Accepts data) (ch : RantChannel)
    (ok : Bool) :
    p.buffers ch data ok =
      [(Bytes.strncpy data.length data).rightpad (p.bufferSize data) 0] := by
  cases p with
  | burst =>
    show [(paddedPackets data).1] = _
    rw [paddedPackets_data]
    rfl
  | acknowledged =>
    show (sendSinglePacket _ _).calls.map _ = _
    rw [sendSinglePacket, tempBuffer_str h]
    rfl
  | broadcast =>
    show (sendSinglePacket _ _).calls.map _ = _
    rw [sendSinglePacket, tempBuffer_str h]
    rfl
  | advanced packets =>
    obtain ⟨c, hc⟩ := h
    show (rantChannelSendAdvancedTransfer ch data packets ok).calls.map _ = _
    rw [rantChannelSendAdvancedTransfer, hc]
    show [(paddedPackets data).1] = _
    rw [paddedPackets_data]
    rfl

/-- **Payload fidelity.** On each of the four paths the library gets the
payload followed by zeros if and only if nothing but zeros follows the first
zero of the payload; and among such payloads the buffer tells those of one
length apart. -/
theorem payload_fidelity_iff (p : SendPath) (ch : RantChannel) (data : List UInt8) (ok : Bool)
    (h : p.Accepts data) :
    (p.buffers ch data ok = [p.padded data] ↔ Bytes.ZeroTailed data) ∧
    ∀ data', p.Accepts data' → data'.length = data.length → Bytes.ZeroTailed data →
      Bytes.ZeroTailed data' → p.buffers ch data' ok = p.buffers ch data ok → data' = data := by
  constructor
  · rw [buffers_eq h, SendPath.padded, List.cons.injEq, List.rightpad, List.rightpad,
      Bytes.length_strncpy, List.append_cancel_right_eq, Bytes.strncpy_eq_self_iff]
    simp
  · intro data' h' hlen hz hz' heq
    rw [buffers_eq h, buffers_eq h', (Bytes.strncpy_eq_self_iff _).mpr hz,
      (Bytes.strncpy_eq_self_iff _).mpr hz'] at heq
    exact List.append_inj_left (List.singleton_inj.mp heq) hlen

/-- A payload without a zero arrives, and is told from another one. -/
theorem payload_fidelity_iff_text :
    SendPath.broadcast.buffers rantChannelAlloc.toRantChannel [0x68, 0x69] true =
      [[0x68, 0x69, 0, 0, 0, 0, 0, 0]] ∧
    SendPath.broadcast.buffers rantChannelAlloc.toRantChannel [0x68, 0x6A] true ≠
      SendPath.broadcast.buffers rantChannelAlloc.toRantChannel [0x68, 0x69] true := by
  have hlen : SendPath.broadcast.Accepts [0x68, 0x69] := show 2 ≤ 8 by decide
  have hfid := payload_fidelity_iff .broadcast rantChannelAlloc.toRantChannel [0x68, 0x69] true hlen
  refine ⟨hfid.1.mpr (by decide), fun heq => ?_⟩
  have hsame := hfid.2 [0x68, 0x6A] (show 2 ≤ 8 by decide) rfl (by decide) (by decide) heq
  exact absurd hsame (by decide)

/-- **A payload cut short.** Two payloads with a zero in the middle give every
path the same buffer, which is the first byte of both: `strncpy` stops
there. -/
theorem zeroByte_cuts_payload :
    let paths := [SendPath.burst, .acknowledged, .broadcast, .advanced .nil]
    let cut : List UInt8 := [1, 0, 0, 0, 0, 0, 0, 0]
    paths.map (fun p => p.buffers rantChannelAlloc.toRantChannel [1, 0, 2] true) =
      List.replicate 4 [cut] ∧
    paths.map (fun p => p.buffers rantChannelAlloc.toRantChannel [1, 0, 3] true) =
      List.replicate 4 [cut] ∧
    paths.map (fun p => p.padded [1, 0, 2]) = List.replicate 4 [1, 0, 2, 0, 0, 0, 0, 0] := by
  decide +kernel

-- ---------------------------------------------------------------------------
-- The packet count
-- ---------------------------------------------------------------------------

/-- `usNumDataPackets`, of the calls that have one. -/
def SendCall.numDataPackets : SendCall → Option UInt16
  | .sendBurstTransfer _ _ usNumDataPackets | .sendAdvancedBurstRTO _ _ usNumDataPackets _ _ =>
    some usNumDataPackets
  | .sendAcknowledgedData _ _ | .sendBroadcastData _ _ => none

/-- A method raises before it sends, or the packets it sends are exactly the
buffer, which has the least size for the data; and no success is returned for
packets that leave data out. -/
structure PacketsCover (data : List UInt8) (r : SendOutcome) : Prop where
  exact : (∃ e, r = ⟨.error e, []⟩) ∨ ∃ c packets, r.calls = [c] ∧
    c.numDataPackets = some packets ∧ 8 * packets.toNat = c.data.length ∧
    IsLeast {size | 8 ∣ size ∧ data.length ≤ size} c.data.length
  success : ∀ v, r.value = .ok v → ∃ c packets, r.calls = [c] ∧
    c.numDataPackets = some packets ∧ data.length ≤ 8 * packets.toNat

/-- The burst method makes one call, and raises if it fails. -/
theorem sendBurstTransfer_eq (ch : RantChannel) (data : List UInt8) (ok : Bool) :
    rantChannelSendBurstTransfer ch data ok =
      ⟨if ok then .ok .true else .error (.runtimeError "failed to send burst transfer."),
        [.sendBurstTransfer ch.channelNum (paddedPackets data).1 (paddedPackets data).2]⟩ := rfl

theorem length_paddedPackets (data : List UInt8) :
    (paddedPackets data).1.length = 8 * ((data.length + 7) / 8) := by
  rw [paddedPackets_data, List.length_rightpad, Bytes.length_strncpy]
  omega

/-- The number of packets, as an unsigned short has it: it wraps at 65536. -/
theorem paddedPackets_count (data : List UInt8) :
    (paddedPackets data).2.toNat = (data.length + 7) / 8 % 65536 := by
  unfold paddedPackets
  by_cases hrem : data.length % 8 = 0
  · simp only [hrem, if_true]
    rw [UInt16.toNat_ofNat']
    have hfull : (data.length + 7) / 8 = data.length / 8 := by omega
    rw [hfull]
  · simp only [hrem, if_false]
    rw [UInt16.toNat_add, UInt16.toNat_ofNat']
    have hceil : (data.length + 7) / 8 = data.length / 8 + 1 := by omega
    have hone : (1 : UInt16).toNat = 1 := rfl
    rw [hceil, hone]
    omega

/-- No shorter buffer of whole packets holds the payload. -/
theorem isLeast_paddedPackets (data : List UInt8) :
    IsLeast {size | 8 ∣ size ∧ data.length ≤ size} (paddedPackets data).1.length := by
  rw [length_paddedPackets]
  refine ⟨⟨Nat.dvd_mul_right _ _, by omega⟩, ?_⟩
  rintro size ⟨⟨k, rfl⟩, hlen⟩
  omega

/-- A method that gets to its call: the count must not have wrapped. Otherwise
the library is told of fewer packets than the buffer has, and may report a
success for them. -/
theorem packetsCover_call_iff {data : List UInt8} {r : SendOutcome} {c : SendCall}
    (hcalls : r.calls = [c]) (hdata : c.data = (paddedPackets data).1)
    (hcount : c.numDataPackets = some (paddedPackets data).2) :
    PacketsCover data r ↔ data.length ≤ 8 * 65535 := by
  have hpackets := paddedPackets_count data
  have hbuffer : c.data.length = 8 * ((data.length + 7) / 8) := by
    rw [hdata, length_paddedPackets]
  constructor
  · rintro ⟨⟨e, rfl⟩ | ⟨c', packets, hc', hp, hexact, -⟩, -⟩
    · cases hcalls
    · have hc : c' = c := List.singleton_inj.mp (hc'.symm.trans hcalls)
      subst hc
      have heq : packets = (paddedPackets data).2 := Option.some.inj (hp.symm.trans hcount)
      rw [heq, hbuffer] at hexact
      omega
  · intro hlen
    have hexact : 8 * (paddedPackets data).2.toNat = c.data.length := by omega
    refine ⟨.inr ⟨c, _, hcalls, hcount, hexact, ?_⟩, fun v hv => ⟨c, _, hcalls, hcount, ?_⟩⟩
    · rw [hdata]
      exact isLeast_paddedPackets data
    · omega

/-- **Packet count.** For every payload: the packets that
`send_burst_transfer` passes on are exactly its padded buffer, and a success
covers the payload, if and only if the payload has at most 65535 packets; for
`send_advanced_transfer` the same, but for an argument that raises before it
sends. -/
theorem packetsCover_iff (ch : RantChannel) (data : List UInt8) (packets : Value) (ok : Bool) :
    (PacketsCover data (rantChannelSendBurstTransfer ch data ok) ↔ data.length ≤ 8 * 65535) ∧
    (PacketsCover data (rantChannelSendAdvancedTransfer ch data packets ok) ↔
      data.length ≤ 8 * 65535 ∨ (stdPcktsPerSerialMsg packets).isOk = false) := by
  rw [sendBurstTransfer_eq]
  refine ⟨packetsCover_call_iff rfl rfl rfl, ?_⟩
  cases hpackets : stdPcktsPerSerialMsg packets with
  | error e =>
    have hraises : rantChannelSendAdvancedTransfer ch data packets ok = ⟨.error e, []⟩ := by
      rw [rantChannelSendAdvancedTransfer, hpackets]
    rw [hraises]
    refine iff_of_true ⟨.inl ⟨e, rfl⟩, fun v hv => ?_⟩ (.inr rfl)
    cases hv
  | ok k =>
    have hsends : rantChannelSendAdvancedTransfer ch data packets ok =
        ⟨.ok .true, [.sendAdvancedBurstRTO ch.channelNum (paddedPackets data).1
          (paddedPackets data).2 k advancedBurstTimeout]⟩ := by
      rw [rantChannelSendAdvancedTransfer, hpackets]
    rw [hsends, packetsCover_call_iff rfl rfl rfl]
    simp [Except.isOk, Except.toBool]

/-- The count of 65536 packets is 0. -/
theorem burstTransfer_wraps (ch : RantChannel) {data : List UInt8}
    (hlen : (data.length + 7) / 8 = 65536) :
    let r := rantChannelSendBurstTransfer ch data true
    r.value = .ok .true ∧ r.calls.map SendCall.numDataPackets = [some 0] ∧
    ¬ PacketsCover data r := by
  have hcount : (paddedPackets data).2 = 0 := by
    rw [← UInt16.toNat_inj, paddedPackets_count, hlen]
    rfl
  rw [sendBurstTransfer_eq]
  refine ⟨rfl, ?_, fun hcover => ?_⟩
  · rw [List.map_cons, SendCall.numDataPackets, hcount]
    rfl
  · have hshort := (packetsCover_call_iff rfl rfl rfl).mp hcover
    omega

/-- **A transfer of nothing.** A payload of 524288 bytes has 65536 packets:
the library is told to send none of them, and the method returns `true`. -/
theorem longTransfer_empty :
    let r := rantChannelSendBurstTransfer rantChannelAlloc.toRantChannel
      (List.replicate 524288 1) true
    r.value = .ok .true ∧ r.calls.map SendCall.numDataPackets = [some 0] ∧
    ¬ PacketsCover (List.replicate 524288 1) r :=
  burstTransfer_wraps _ (by rw [List.length_replicate])

end AntWireless.Channel
