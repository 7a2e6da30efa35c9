import AntWireless.Channel.Model
import AntWireless.DataUtilities
import AntWireless.Lib.Bits

/-!
# AntWireless — the handlers of received data

Byte 0 of an event's data is the channel number, for a burst packet with the sequence number
above it. The payload follows, and after it, in an extended message, a byte of flags and what
they announce.

* `onEventRx`, `onEventRxFlag` — what the handlers log.
* `reportsPacket_iff` — when the reports of two events show what the packets have, and no more.
* `decodesId_iff` — when a channel ID is reported exactly if the flags say that there is one.
-/

namespace AntWireless.Channel

-- ---------------------------------------------------------------------------
-- Received packets
-- ---------------------------------------------------------------------------

/-- How data was received. -/
inductive Reception
  | acknowledged
  | burst
  | broadcast
  deriving DecidableEq, Repr

/-- What a handler formats into its log line. -/
inductive PacketReport
  | acknowledged (channel : Nat) (dump : String)
  | burst (channel sequenceNum : Nat) (dump : String)
  | broadcast (channel : Nat) (dump : String)
  deriving DecidableEq, Repr

/-- The log line. -/
def PacketReport.text : PacketReport → String
  | .acknowledged channel dump => "Acknowledged: Rx [" ++ toString channel ++ "]:\n" ++ dump
  | .burst channel sequenceNum dump =>
    "Burst (0x" ++ formatX 2 channel ++ "): Rx: " ++ toString sequenceNum ++ ":\n" ++ dump
  | .broadcast channel dump => "Broadcast: Rx [" ++ toString channel ++ "]:\n" ++ dump

/-- `hexdump( data[1..9] )`, of the data behind its first byte. -/
def dumpPayload (rest : List UInt8) : Except RubyError String :=
  DataUtilities.hexdump (rest.take 9) 8

/-- `on_event_rx_acknowledged`; `nil`, which empty data has for a slice, has
no bytes. -/
def onEventRxAcknowledged : List UInt8 → Except RubyError PacketReport
  | [] => .error .noMethodError
  | b :: rest => (dumpPayload rest).map fun dump => .acknowledged b.toNat dump

/-- `on_event_rx_burst_packet`. The shift comes after the mask, and leaves nothing. -/
def onEventRxBurstPacket : List UInt8 → Except RubyError PacketReport
  | [] => .error .noMethodError
  | b :: rest =>
    let channel := (b.toNat &&& channelNumberMask.toNat) >>> 5
    let sequenceNum := b.toNat &&& sequenceNumberMask.toNat
    (dumpPayload rest).map fun dump => .burst channel sequenceNum dump

/-- `on_event_rx_broadcast`. -/
def onEventRxBroadcast : List UInt8 → Except RubyError PacketReport
  | [] => .error .noMethodError
  | b :: rest => (dumpPayload rest).map fun dump => .broadcast b.toNat dump

/-- The handler of a reception. -/
def onEventRx : Reception → List UInt8 → Except RubyError PacketReport
  | .acknowledged => onEventRxAcknowledged
  | .burst => onEventRxBurstPacket
  | .broadcast => onEventRxBroadcast

-- ---------------------------------------------------------------------------
-- Extended messages
-- ---------------------------------------------------------------------------

/-- A line that a handler of an extended message logs. -/
inductive EventLine
  | channelId (r : Reception) (deviceNumber deviceType transmissionType : Nat)
  | packet (report : PacketReport)
  deriving DecidableEq, Repr

/-- The word for a reception. -/
def Reception.text : Reception → String
  | .acknowledged => "an acknowledge"
  | .burst => "a burst"
  | .broadcast => "a broadcast"

def EventLine.text : EventLine → String
  | .channelId r deviceNumber deviceType transmissionType =>
    "Got " ++ r.text ++ " on Chan ID(" ++ toString deviceNumber ++ "/" ++ toString deviceType ++
      "/" ++ toString transmissionType ++ ")"
  | .packet report => report.text

/-- The lines logged, and the exception if there was one. -/
structure Logged where
  lines : List EventLine
  raised : Option RubyError
  deriving DecidableEq, Repr

/-- A handler that logs one line, or raises. -/
def Logged.ofReport : Except RubyError PacketReport → Logged
  | .ok report => ⟨[.packet report], none⟩
  | .error e => ⟨[], some e⟩

/-- `data.bytes[ i ]`. -/
def byteAt (data : List UInt8) (i : Nat) : Value :=
  match data[i]? with
  | none => .nil
  | some b => .int b.toNat

/-- The line with the channel ID. It is logged if `flags &
ANT_EXT_MESG_BITFIELD_DEVICE_ID` is true, as every Integer is. -/
def channelIdLines (r : Reception) (data : List UInt8) : Except RubyError (List EventLine) := do
  let flag ← (byteAt data 9).and antExtMesgBitfieldDeviceId.toNat
  if flag.rtest then
    match data[10]?, data[11]?, data[12]?, data[13]? with
    | some low, some high, some type, some transmission =>
      return [.channelId r (low.toNat ||| high.toNat <<< 8) type.toNat transmission.toNat]
    -- `nil` has no `<<`, and `%d` does not print it
    | _, none, _, _ => .error .noMethodError
    | _, _, _, _ => .error .typeError
  else return []

/-- The handlers of extended messages differ in the word in their line, and in
the handler that they call at the end. -/
def onEventRxFlag (r : Reception) (data : List UInt8) : Logged :=
  match channelIdLines r data with
  | .error e => ⟨[], some e⟩
  | .ok lines =>
    let rest := Logged.ofReport (onEventRx r data)
    { rest with lines := lines ++ rest.lines }

/-- `on_event_rx_flag_acknowledged`. -/
def onEventRxFlagAcknowledged : List UInt8 → Logged := onEventRxFlag .acknowledged

/-- `on_event_rx_flag_burst_packet`. -/
def onEventRxFlagBurstPacket : List UInt8 → Logged := onEventRxFlag .burst

/-- `on_event_rx_flag_broadcast`. -/
def onEventRxFlagBroadcast : List UInt8 → Logged := onEventRxFlag .broadcast

-- ---------------------------------------------------------------------------
-- What a report shows
-- ---------------------------------------------------------------------------

/-- The byte with the channel and the bytes of the payload are the same. -/
def SamePacket (d d' : Buffer) : Prop :=
  ∀ i ≤ antStandardDataPayloadSize, d.bytes[i]? = d'.bytes[i]?

instance (d d' : Buffer) : Decidable (SamePacket d d') :=
  inferInstanceAs (Decidable (∀ i ≤ antStandardDataPayloadSize, d.bytes[i]? = d'.bytes[i]?))

/-- The reports of two events are the same exactly if their packets are; and a
burst packet's channel and sequence number are the bits of byte 0 that the
masks name. -/
structure ReportsPacket (r : Reception) (d d' : Buffer) : Prop where
  same : onEventRx r d.bytes = onEventRx r d'.bytes ↔ SamePacket d d'
  burst : r = .burst → ∀ data ∈ [d, d'], ∃ b dump, data.bytes[0]? = some b ∧
    onEventRx r data.bytes = .ok (.burst (b.toNat &&& channelNumberMask.toNat)
      (b.toNat &&& sequenceNumberMask.toNat) dump)

/-- Payloads of a line or two have a dump: no width is too big, and no base
out of range. -/
theorem dumpPayload_eq (rest : List UInt8) : ∃ dump, dumpPayload rest = .ok dump :=
  ⟨_, DataUtilities.hexdump_eq (show 1 ≤ 8 by decide) (.inl (by decide))⟩

/-- The dump is that of nine bytes, and of no other nine. -/
theorem dumpPayload_inj {rest rest' : List UInt8} :
    dumpPayload rest = dumpPayload rest' ↔ rest.take 9 = rest'.take 9 := by
  constructor
  · intro h
    obtain ⟨dump, hdump⟩ := dumpPayload_eq rest
    have hdump' : dumpPayload rest' = .ok dump := h.symm.trans hdump
    exact DataUtilities.hexdump_injective (show 1 ≤ 8 by decide) hdump' hdump
  · intro h
    rw [dumpPayload, dumpPayload, h]

/-- What of byte 0 a handler reports. -/
def header (r : Reception) (b : UInt8) : Nat :=
  match r with
  | .burst => b.toNat &&& sequenceNumberMask.toNat
  | .acknowledged | .broadcast => b.toNat

/-- A byte has no bits above the five of the channel number. -/
theorem channel_shifted (b : UInt8) : (b.toNat &&& channelNumberMask.toNat) >>> 5 = 0 := by
  have hle : b.toNat &&& channelNumberMask.toNat ≤ 31 := Nat.and_le_right
  rw [Nat.shiftRight_eq_div_pow]
  omega

/-- Two reports are the same if the handler shows the same of byte 0, and the
dumps are. -/
theorem onEventRx_inj (r : Reception) (b b' : UInt8) (rest rest' : List UInt8) :
    onEventRx r (b :: rest) = onEventRx r (b' :: rest') ↔
      header r b = header r b' ∧ rest.take 9 = rest'.take 9 := by
  obtain ⟨dump, hdump⟩ := dumpPayload_eq rest
  obtain ⟨dump', hdump'⟩ := dumpPayload_eq rest'
  have hsame : dump = dump' ↔ rest.take 9 = rest'.take 9 := by
    rw [← dumpPayload_inj, hdump, hdump', Except.ok.injEq]
  cases r with
  | acknowledged =>
    simp [onEventRx, onEventRxAcknowledged, hdump, hdump', Except.map, header, ← hsame]
  | burst =>
    simp [onEventRx, onEventRxBurstPacket, hdump, hdump', Except.map, header, ← hsame,
      channel_shifted]
  | broadcast =>
    simp [onEventRx, onEventRxBroadcast, hdump, hdump', Except.map, header, ← hsame]

theorem take_eq_take_iff {n : Nat} {l l' : List UInt8} :
    l.take n = l'.take n ↔ ∀ i < n, l[i]? = l'[i]? := by
  constructor
  · intro h i hi
    rw [← List.getElem?_take_of_lt hi, h, List.getElem?_take_of_lt hi]
  · intro h
    refine List.ext_getElem? fun i => ?_
    rw [List.getElem?_take, List.getElem?_take]
    split
    · exact h i ‹_›
    · rfl

/-- A buffer is not empty. -/
theorem Buffer.exists_cons (d : Buffer) : ∃ b rest, d.bytes = b :: rest := by
  refine List.exists_cons_of_ne_nil fun h => ?_
  have hsize := d.size
  rw [h] at hsize
  cases hsize

/-- The packet is byte 0 and the eight bytes behind it. -/
theorem samePacket_iff {d d' : Buffer} {b b' : UInt8} {rest rest' : List UInt8}
    (hd : d.bytes = b :: rest) (hd' : d'.bytes = b' :: rest') :
    SamePacket d d' ↔ b = b' ∧ ∀ i < 8, rest[i]? = rest'[i]? := by
  rw [SamePacket, hd, hd']
  constructor
  · intro h
    refine ⟨Option.some.inj (h 0 (Nat.zero_le _)), fun i hi => ?_⟩
    have hnext := h (i + 1) hi
    rwa [List.getElem?_cons_succ, List.getElem?_cons_succ] at hnext
  · rintro ⟨rfl, h⟩ i hi
    cases i with
    | zero => rfl
    | succ i =>
      rw [List.getElem?_cons_succ, List.getElem?_cons_succ]
      exact h i hi

/-- The channel reported for a burst packet is 0: the mask keeps the low five
bits, and the shift by five that comes after it leaves nothing of them. -/
theorem burst_reported (d : Buffer) :
    (∃ b dump, d.bytes[0]? = some b ∧
      onEventRx .burst d.bytes = .ok (.burst (b.toNat &&& channelNumberMask.toNat)
        (b.toNat &&& sequenceNumberMask.toNat) dump)) ↔
    ∀ b, d.bytes[0]? = some b → b.toNat &&& channelNumberMask.toNat = 0 := by
  obtain ⟨b, rest, hd⟩ := d.exists_cons
  obtain ⟨dump, hdump⟩ := dumpPayload_eq rest
  have hreport : onEventRx .burst (b :: rest) =
      .ok (.burst 0 (b.toNat &&& sequenceNumberMask.toNat) dump) := by
    rw [onEventRx, onEventRxBurstPacket, hdump, channel_shifted]
    rfl
  rw [hd, List.getElem?_cons_zero, hreport]
  constructor
  · rintro ⟨c, dump', hc, hburst⟩ b' hb'
    cases hc
    cases hb'
    injection hburst with hburst
    injection hburst with hchannel
    exact hchannel.symm
  · intro h
    refine ⟨b, dump, rfl, ?_⟩
    rw [h b rfl]

/-- With no channel bits in byte 0 a handler shows the whole of it. -/
theorem header_inj {r : Reception} {b b' : UInt8}
    (hb : r = .burst → b.toNat &&& channelNumberMask.toNat = 0)
    (hb' : r = .burst → b'.toNat &&& channelNumberMask.toNat = 0) :
    header r b = header r b' ↔ b = b' := by
  refine ⟨fun h => UInt8.toNat_inj.mp ?_, fun h => by rw [h]⟩
  cases r with
  | burst =>
    have hsequence : b.toNat &&& sequenceNumberMask.toNat =
      b'.toNat &&& sequenceNumberMask.toNat := h
    have hcover : channelNumberMask.toNat ||| sequenceNumberMask.toNat = 2 ^ 8 - 1 := by decide
    rw [← Bits.masks_cover b.toNat_lt hcover, ← Bits.masks_cover b'.toNat_lt hcover, hb rfl,
      hb' rfl, hsequence]
  | acknowledged => exact h
  | broadcast => exact h

/-- **Reports.** For each handler of a packet, and every two buffers: the
reports are right if and only if the flags, which `data[1..9]` reaches, do not
tell equal packets apart, and a burst packet is for channel 0. -/
theorem reportsPacket_iff (r : Reception) (d d' : Buffer) :
    ReportsPacket r d d' ↔
      (SamePacket d d' → d.bytes[9]? = d'.bytes[9]?) ∧
      (r = .burst → ∀ data ∈ [d, d'], ∀ b, data.bytes[0]? = some b →
        b.toNat &&& channelNumberMask.toNat = 0) := by
  obtain ⟨b, rest, hd⟩ := d.exists_cons
  obtain ⟨b', rest', hd'⟩ := d'.exists_cons
  have hsame := samePacket_iff hd hd'
  have hreports : onEventRx r d.bytes = onEventRx r d'.bytes ↔
      header r b = header r b' ∧ (∀ i < 8, rest[i]? = rest'[i]?) ∧ rest[8]? = rest'[8]? := by
    rw [hd, hd', onEventRx_inj, take_eq_take_iff, Nat.forall_lt_succ_right]
  have hflags : d.bytes[9]? = d'.bytes[9]? ↔ rest[8]? = rest'[8]? := by
    rw [hd, hd', List.getElem?_cons_succ, List.getElem?_cons_succ]
  have hb : d.bytes[0]? = some b := by rw [hd, List.getElem?_cons_zero]
  have hb' : d'.bytes[0]? = some b' := by rw [hd', List.getElem?_cons_zero]
  constructor
  · intro h
    refine ⟨fun hpacket => hflags.mpr (hreports.mp (h.same.mpr hpacket)).2.2, ?_⟩
    rintro rfl data hdata
    exact (burst_reported data).mp (h.burst rfl data hdata)
  · rintro ⟨hflag, hburst⟩
    have hheader : header r b = header r b' ↔ b = b' :=
      header_inj (fun hr => hburst hr d (by simp) b hb) (fun hr => hburst hr d' (by simp) b' hb')
    refine ⟨?_, ?_⟩
    · rw [hreports, hheader, hsame]
      rw [hsame, hflags] at hflag
      exact ⟨fun ⟨hzero, hrest, _⟩ => ⟨hzero, hrest⟩,
        fun ⟨hzero, hrest⟩ => ⟨hzero, hrest, hflag ⟨hzero, hrest⟩⟩⟩
    · rintro rfl data hdata
      exact (burst_reported data).mpr (hburst rfl data hdata)

/-- Two broadcasts that differ in their flags alone have different dumps, and
a burst packet for channel 5 is reported for channel 0. -/
theorem reports_flags :
    ¬ ReportsPacket .broadcast Buffer.zero
        (Buffer.zero.write ⟨List.replicate 9 0 ++ [0x80], by decide⟩) ∧
      ¬ ReportsPacket .burst (Buffer.zero.write ⟨[0x25], by decide⟩)
        (Buffer.zero.write ⟨[0x25], by decide⟩) := by
  constructor
  · intro h
    have hreport := h.same.mpr (by decide)
    exact absurd ((onEventRx_inj .broadcast 0 0 _ _).mp hreport).2 (by decide)
  · intro h
    have hchannel := (burst_reported _).mp (h.burst rfl _ List.mem_cons_self) 0x25 rfl
    exact absurd hchannel (by decide)

-- ---------------------------------------------------------------------------
-- The channel ID of an extended message
-- ---------------------------------------------------------------------------

instance : NeZero mesgMaxSize := ⟨by decide⟩

/-- The byte at an offset in the buffer. -/
def Buffer.byte (d : Buffer) (i : Fin mesgMaxSize) : UInt8 :=
  d.bytes.get (i.cast d.size.symm)

theorem Buffer.getElem?_bytes (d : Buffer) (i : Fin mesgMaxSize) :
    d.bytes[i.val]? = some (d.byte i) :=
  List.getElem?_eq_getElem (i.cast d.size.symm).isLt

def EventLine.isChannelId : EventLine → Bool
  | .channelId .. => true
  | .packet _ => false

/-- The event has a channel ID. -/
def HasDeviceId (d : Buffer) : Prop :=
  d.byte 9 &&& antExtMesgBitfieldDeviceId ≠ 0

instance (d : Buffer) : Decidable (HasDeviceId d) :=
  inferInstanceAs (Decidable (_ ≠ _))

/-- A channel ID is logged if the event has one, and it is the one of the
event; what else is logged or raised comes from the handler of the event
without it. -/
structure DecodesId (r : Reception) (d : Buffer) : Prop where
  ids : (onEventRxFlag r d.bytes).lines.filter EventLine.isChannelId =
    if HasDeviceId d then
      [.channelId r ((d.byte 10).toNat + 256 * (d.byte 11).toNat) (d.byte 12).toNat
        (d.byte 13).toNat]
    else []
  handled :
    { onEventRxFlag r d.bytes with
      lines := (onEventRxFlag r d.bytes).lines.filter fun line => !line.isChannelId } =
    Logged.ofReport (onEventRx r d.bytes)

/-- Of every buffer a channel ID is logged, whatever its flags are: the test
is of an Integer, which is true, and the four bytes are within the buffer. -/
theorem channelIdLines_eq (r : Reception) (d : Buffer) :
    channelIdLines r d.bytes = .ok [.channelId r ((d.byte 10).toNat + 256 * (d.byte 11).toNat)
      (d.byte 12).toNat (d.byte 13).toNat] := by
  have hflags : (byteAt d.bytes 9).and antExtMesgBitfieldDeviceId.toNat =
      .ok (.int (Int.land (d.byte 9).toNat antExtMesgBitfieldDeviceId.toNat)) := by
    rw [byteAt, show d.bytes[9]? = some (d.byte 9) from d.getElem?_bytes 9]
    rfl
  have hnumber : (d.byte 10).toNat ||| (d.byte 11).toNat <<< 8 =
      (d.byte 10).toNat + 256 * (d.byte 11).toNat := by
    have hadd := Nat.shiftLeft_add_eq_or_of_lt (d.byte 10).toNat_lt (d.byte 11).toNat
    rw [Nat.or_comm, ← hadd, Nat.shiftLeft_eq]
    omega
  rw [channelIdLines, hflags, ← hnumber]
  show (match d.bytes[10]?, d.bytes[11]?, d.bytes[12]?, d.bytes[13]? with
    | some low, some high, some type, some transmission => _
    | _, none, _, _ => _
    | _, _, _, _ => _) = _
  rw [show d.bytes[10]? = some (d.byte 10) from d.getElem?_bytes 10,
    show d.bytes[11]? = some (d.byte 11) from d.getElem?_bytes 11,
    show d.bytes[12]? = some (d.byte 12) from d.getElem?_bytes 12,
    show d.bytes[13]? = some (d.byte 13) from d.getElem?_bytes 13]
  rfl

/-- A report is no channel ID, so the lines are told apart. -/
theorem filter_ofReport (report : Except RubyError PacketReport) :
    (Logged.ofReport report).lines.filter EventLine.isChannelId = [] ∧
      ((Logged.ofReport report).lines.filter fun line => !line.isChannelId) =
        (Logged.ofReport report).lines := by
  cases report with
  | ok report => exact ⟨rfl, rfl⟩
  | error e => exact ⟨rfl, rfl⟩

/-- **Channel IDs of messages.** The handlers of extended messages test an
Integer, which is true whether it is 0 or not: so the channel ID is right
exactly if the flags say that there is one. -/
theorem decodesId_iff (r : Reception) (d : Buffer) : DecodesId r d ↔ HasDeviceId d := by
  obtain ⟨hnone, hall⟩ := filter_ofReport (onEventRx r d.bytes)
  have hlogged : onEventRxFlag r d.bytes =
      { Logged.ofReport (onEventRx r d.bytes) with
        lines := .channelId r ((d.byte 10).toNat + 256 * (d.byte 11).toNat) (d.byte 12).toNat
          (d.byte 13).toNat :: (Logged.ofReport (onEventRx r d.bytes)).lines } := by
    rw [onEventRxFlag, channelIdLines_eq]
    rfl
  have hids : (onEventRxFlag r d.bytes).lines.filter EventLine.isChannelId =
      [.channelId r ((d.byte 10).toNat + 256 * (d.byte 11).toNat) (d.byte 12).toNat
        (d.byte 13).toNat] := by
    rw [hlogged, List.filter_cons_of_pos rfl, hnone]
  constructor
  · intro h
    by_contra hflags
    have hempty := h.ids
    rw [hids, if_neg hflags] at hempty
    cases hempty
  · intro hflags
    refine ⟨by rw [hids, if_pos hflags], ?_⟩
    rw [hlogged, List.filter_cons_of_neg (by simp [EventLine.isChannelId]), hall]

/-- The channel ID 0/0/0 is logged of an empty message, which has none. -/
theorem zeroId_logged : ¬ DecodesId .broadcast Buffer.zero := by
  intro h
  have hids := h.ids
  rw [if_neg (by decide), List.filter_eq_nil_iff, onEventRxFlag, channelIdLines_eq] at hids
  exact hids _ List.mem_cons_self rfl

/-- The log of an extended burst packet: the line of its ID, then the report,
whose dump ends with the flags. -/
example : (onEventRxFlagBurstPacket
    [0x25, 1, 2, 3, 4, 5, 6, 7, 8, 0x80, 0x34, 0x12, 0x78, 0x81]).lines.map EventLine.text = [
      "Got a burst on Chan ID(4660/120/129)",
      "Burst (0x00): Rx: 32:\n" ++
        "0000: 0x01 0x02 0x03 0x04 0x05 0x06 0x07 0x08  | ........ |\n" ++
        "0001: 0x80                                     | .        |"] := by
  decide +kernel

end AntWireless.Channel
