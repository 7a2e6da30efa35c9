import AntWireless.Channel.Send
import AntWireless.Channel.Closing
import AntWireless.Lib.Except
import AntWireless.Ruby.Format

/-!
# AntWireless — the description of a channel

`Channel#inspect` puts the type, the channel id, the number, the frequency and the network
of a channel into one string. Handlers format it before they do anything else.

* `channelTypeDescription`, `channelId`, `inspect` — the string, or what is raised.
* `isOk_inspect_iff` — when there is a string.
* `onEventTx` — the handler that describes a channel and then sends.
-/

namespace AntWireless.Channel

/-- `channel_type_description`; the last two values are those of an earlier branch. -/
def channelTypeDescription (channelType : Value) : Except RubyError (Option String) := do
  if ← channelType.caseEq parameterRxNotTx.toNat then return some "slave"
  else if ← channelType.caseEq parameterTxNotRx.toNat then return some "master"
  else if ← channelType.caseEq parameterSharedChannel.toNat then return some "shared"
  else if ← channelType.caseEq parameterNoTxGuardBand.toNat then return some "no_tx_guard_band"
  else if ← channelType.caseEq parameterAlwaysRxWildCardSearchId.toNat then
    return some "always_rx_wild_card_search_id"
  else if ← channelType.caseEq parameterRxOnly.toNat then return some "rx_only"
  else return none

/-- `channel_id`; `nil` without a device number. -/
def channelId (ivars : ChannelIvars) : Except RubyError (Option String) :=
  if ivars.deviceNumber.rtest then do
    let deviceType ← ivars.deviceType.and 0x7f
    let pairingBit ← ivars.deviceType.and 0x80
    let pairing ← pairingBit.nonzeroP
    let number ← ivars.deviceNumber.formatD
    let type ← deviceType.formatD
    let transmission ← ivars.transmissionType.formatD
    return some (toString number ++ "/" ++ toString type ++ "/" ++ toString transmission ++
      (if pairing then "+" else ""))
  else .ok none

/-- `inspect`; the object's identity stands for its `object_id`. -/
def inspect (s : State) (self : ObjId) (ch : ChannelObject) : Except RubyError String := do
  let description ← channelTypeDescription ch.ivars.channelType
  let id ← channelId ch.ivars
  let frequency ← ch.ivars.rfFrequency.plus 2400
  let mhz ← frequency.formatD
  let network ← ch.ivars.networkNumber.formatD
  return "#<Ant::Channel:0x" ++ hexDigits self ++ " " ++
    description.getD "" ++ " \x7b" ++ id.getD "-" ++ "\x7d #" ++
    toString ch.channelNum.toNat ++ " @" ++ toString mhz ++ "MHz on network " ++
    toString network ++ (if rantChannelClosedP s self ch.toRantChannel then " (closed)" else "") ++
    ">"

/-- `Ant::Channel.registry[ channel_num ]`. -/
def State.registryAt (s : State) (channelNum : UInt8) : Option (ObjId × ChannelObject) :=
  (s.registry.lookup (int2fix channelNum)).bind fun o => (s.objects o).map fun ch => (o, ch)

/-- `[ 1, 33 ].pack( "CC" )`. -/
def ident : List UInt8 := [1, 33]

/-- `on_event_tx`. The description is made even where it is not logged; `nil`
has one, but no `send_broadcast_data`. -/
def onEventTx (s : State) (channelNum : UInt8) : SendOutcome :=
  match s.registryAt channelNum with
  | none => ⟨.error .noMethodError, []⟩
  | some (o, ch) =>
    match inspect s o ch with
    | .error e => ⟨.error e, []⟩
    | .ok _ => rantChannelSendBroadcastData ch.toRantChannel (.str ident)

-- ---------------------------------------------------------------------------
-- When there is a description
-- ---------------------------------------------------------------------------

/-- The attributes of a channel that has a description: its type can be
compared with the channel types, network number and frequency print, and so
does the channel id, if there is a device number. -/
structure Describable (ivars : ChannelIvars) : Prop where
  channelType : (channelTypeDescription ivars.channelType).isOk = true
  network : ivars.networkNumber.prints = true
  frequency : ivars.rfFrequency.adds 2400 = true
  channelId : ivars.deviceNumber.rtest = true → ivars.deviceNumber.prints = true ∧
    ivars.deviceType.masks 0x7f 0x80 = true ∧ ivars.transmissionType.prints = true

/-- A channel that has a device number has a channel id exactly where its
three parts print, and its device type can be masked: without its pairing bit
for the second part, and for the bit itself. -/
theorem isOk_channelId_iff (ivars : ChannelIvars) : (channelId ivars).isOk = true ↔
    (ivars.deviceNumber.rtest = true → ivars.deviceNumber.prints = true ∧
      ivars.deviceType.masks 0x7f 0x80 = true ∧ ivars.transmissionType.prints = true) := by
  unfold channelId
  rw [← isOk_and_masks, Bool.and_eq_true, Except.isOk_bind_iff, Except.isOk_bind_iff]
  split
  · rename_i hset
    simp only [hset, true_implies, bind, pure, Except.pure, Except.isOk_bind_iff]
    constructor
    · rintro ⟨type, htype, bit, hbit, pairing, hpairing, number, hnumber, i, hi, t, ht, -⟩
      exact ⟨Except.isOk_iff.mpr ⟨number, hnumber⟩,
        ⟨⟨type, htype, Except.isOk_iff.mpr ⟨i, hi⟩⟩,
          bit, hbit, Except.isOk_iff.mpr ⟨pairing, hpairing⟩⟩,
        Except.isOk_iff.mpr ⟨t, ht⟩⟩
    · rintro ⟨hnumber, ⟨⟨type, htype, hi⟩, bit, hbit, hpairing⟩, htransmission⟩
      obtain ⟨number, hnumber⟩ := Except.isOk_iff.mp hnumber
      obtain ⟨i, hi⟩ := Except.isOk_iff.mp hi
      obtain ⟨pairing, hpairing⟩ := Except.isOk_iff.mp hpairing
      obtain ⟨t, ht⟩ := Except.isOk_iff.mp htransmission
      exact ⟨type, htype, bit, hbit, pairing, hpairing, number, hnumber, i, hi, t, ht, rfl⟩
  · rename_i hunset
    exact iff_of_true rfl fun hset => absurd hset hunset

/-- **Descriptions.** `inspect` gives a string exactly where the attributes
have one, whatever the registry holds. It raises where the comparison of the
channel type does, a value does not print, or 2400 cannot be added to the
frequency; `closed?` never raises. -/
theorem isOk_inspect_iff (s : State) (self : ObjId) (ch : ChannelObject) :
    (inspect s self ch).isOk = true ↔ Describable ch.ivars := by
  unfold inspect
  simp only [bind, pure, Except.pure, Except.isOk_bind_iff]
  constructor
  · rintro ⟨type, htype, id, hid, frequency, hfrequency, mhz, hmhz, network, hnetwork, -⟩
    refine ⟨Except.isOk_iff.mpr ⟨type, htype⟩, Except.isOk_iff.mpr ⟨network, hnetwork⟩, ?_,
      (isOk_channelId_iff _).mp (Except.isOk_iff.mpr ⟨id, hid⟩)⟩
    rw [← isOk_plus_formatD _ 2400, hfrequency]
    exact Except.isOk_iff.mpr ⟨mhz, hmhz⟩
  · rintro ⟨htype, hnetwork, hfrequency, hid⟩
    obtain ⟨type, htype⟩ := Except.isOk_iff.mp htype
    obtain ⟨id, hid⟩ := Except.isOk_iff.mp ((isOk_channelId_iff _).mpr hid)
    obtain ⟨network, hnetwork⟩ := Except.isOk_iff.mp hnetwork
    rw [← isOk_plus_formatD _ 2400, Except.isOk_bind_iff] at hfrequency
    obtain ⟨frequency, hfrequency, hmhz⟩ := hfrequency
    obtain ⟨mhz, hmhz⟩ := Except.isOk_iff.mp hmhz
    exact ⟨type, htype, id, hid, frequency, hfrequency, mhz, hmhz, network, hnetwork, rfl⟩

end AntWireless.Channel
