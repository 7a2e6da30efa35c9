import AntWireless.BitVector
import AntWireless.Defines
import Mathlib.Data.List.Basic

/-!
# AntWireless — decoding a capabilities response

`on_capabilities` reads each flag of the payload with `BitVector#on?` or `#off?`, which
take the position of a bit, and passes them the masks of `antdefines.h`.

* `onCapabilities` — the hash it stores; `maskCapabilities` — the one the masks define.
* `onCapabilities_iff` — the two agree exactly on payloads where no bit that a mask names
  is set: a flag is read from the bit at position `2 ^ i` in place of `i`, and from no bit
  at all where `2 ^ i` lies beyond the byte.
-/

namespace AntWireless.Response

/-- `Ant.capabilities`; the first three are `nil` where the payload is too short. -/
structure Capabilities where
  maxChannels : Option UInt8
  maxNetworks : Option UInt8
  maxSensrcoreChannels : Option UInt8
  rxChannelsEnabled : Bool
  txChannelsEnabled : Bool
  rxMessagesEnabled : Bool
  txMessagesEnabled : Bool
  ackdMessagesEnabled : Bool
  burstTransferEnabled : Bool
  overunUnderrun : Bool
  networkEnabled : Bool
  apiVersion2 : Bool
  serialNumberEnabled : Bool
  perChannelTxPowerEnabled : Bool
  lowPrioritySearchEnabled : Bool
  scriptEnabled : Bool
  searchListEnabled : Bool
  ledEnabled : Bool
  extMessageEnabled : Bool
  scanModeEnabled : Bool
  proxSearchEnabled : Bool
  extAssignEnabled : Bool
  antfsEnabled : Bool
  fit1Enabled : Bool
  advancedBurstEnabled : Bool
  eventBufferingEnabled : Bool
  eventFilteringEnabled : Bool
  highDutySearchModeEnabled : Bool
  activeSearchSharingModeEnabled : Bool
  selectiveDataUpdateEnabled : Bool
  encryptedChannelEnabled : Bool
  rfactiveNotificationEnabled : Bool
  deriving DecidableEq, Repr

/-- A constant exposed to Ruby with `EXPOSE_CONST`. -/
def exposeConst (c : UInt8) : Int := c.toNat

/-- `on_capabilities`. -/
def onCapabilities (data : List UInt8) : Capabilities :=
  let stdOpts := BitVector.ofByte? data[2]?
  let advOpts := BitVector.ofByte? data[3]?
  let advOpts2 := BitVector.ofByte? data[4]?
  let advOpts3 := BitVector.ofByte? data[6]?
  let advOpts4 := BitVector.ofByte? data[7]?
  { maxChannels := data[0]?
    maxNetworks := data[1]?
    maxSensrcoreChannels := data[5]?
    rxChannelsEnabled := stdOpts.isOff (exposeConst capabilitiesNoRxChannels)
    txChannelsEnabled := stdOpts.isOff (exposeConst capabilitiesNoTxChannels)
    rxMessagesEnabled := stdOpts.isOff (exposeConst capabilitiesNoRxMessages)
    txMessagesEnabled := stdOpts.isOff (exposeConst capabilitiesNoTxMessages)
    ackdMessagesEnabled := stdOpts.isOff (exposeConst capabilitiesNoAckdMessages)
    burstTransferEnabled := stdOpts.isOff (exposeConst capabilitiesNoBurstTransfer)
    overunUnderrun := advOpts.isOn (exposeConst capabilitiesOverunUnderrun)
    networkEnabled := advOpts.isOn (exposeConst capabilitiesNetworkEnabled)
    apiVersion2 := advOpts.isOn (exposeConst capabilitiesAp1Version2)
    serialNumberEnabled := advOpts.isOn (exposeConst capabilitiesSerialNumberEnabled)
    perChannelTxPowerEnabled := advOpts.isOn (exposeConst capabilitiesPerChannelTxPowerEnabled)
    lowPrioritySearchEnabled := advOpts.isOn (exposeConst capabilitiesLowPrioritySearchEnabled)
    scriptEnabled := advOpts.isOn (exposeConst capabilitiesScriptEnabled)
    searchListEnabled := advOpts.isOn (exposeConst capabilitiesSearchListEnabled)
    ledEnabled := advOpts2.isOn (exposeConst capabilitiesLedEnabled)
    extMessageEnabled := advOpts2.isOn (exposeConst capabilitiesExtMessageEnabled)
    scanModeEnabled := advOpts2.isOn (exposeConst capabilitiesScanModeEnabled)
    proxSearchEnabled := advOpts2.isOn (exposeConst capabilitiesProxSearchEnabled)
    extAssignEnabled := advOpts2.isOn (exposeConst capabilitiesExtAssignEnabled)
    antfsEnabled := advOpts2.isOn (exposeConst capabilitiesFsAntfsEnabled)
    fit1Enabled := advOpts2.isOn (exposeConst capabilitiesFit1Enabled)
    advancedBurstEnabled := advOpts3.isOn (exposeConst capabilitiesAdvancedBurstEnabled)
    eventBufferingEnabled := advOpts3.isOn (exposeConst capabilitiesEventBufferingEnabled)
    eventFilteringEnabled := advOpts3.isOn (exposeConst capabilitiesEventFilteringEnabled)
    highDutySearchModeEnabled :=
      advOpts3.isOn (exposeConst capabilitiesHighDutySearchModeEnabled)
    activeSearchSharingModeEnabled :=
      advOpts3.isOn (exposeConst capabilitiesActiveSearchSharingModeEnabled)
    selectiveDataUpdateEnabled :=
      advOpts3.isOn (exposeConst capabilitiesSelectiveDataUpdateEnabled)
    encryptedChannelEnabled := advOpts3.isOn (exposeConst capabilitiesEncryptedChannelEnabled)
    rfactiveNotificationEnabled :=
      advOpts4.isOn (exposeConst capabilitiesRfactiveNotificationEnabled) }

-- ---------------------------------------------------------------------------
-- What the masks define
-- ---------------------------------------------------------------------------

/-- A bit of the mask is set in the byte. -/
def masked (byte mask : UInt8) : Bool := byte &&& mask ≠ 0

/-- The capabilities of a payload as the `CAPABILITIES_` masks define them.
The constant for the last one is a position. -/
def maskCapabilities (data : List UInt8) (h : 8 ≤ data.length) : Capabilities :=
  let std := data[2]
  let adv := data[3]
  let adv2 := data[4]
  let adv3 := data[6]
  { maxChannels := some data[0]
    maxNetworks := some data[1]
    maxSensrcoreChannels := some data[5]
    rxChannelsEnabled := !masked std capabilitiesNoRxChannels
    txChannelsEnabled := !masked std capabilitiesNoTxChannels
    rxMessagesEnabled := !masked std capabilitiesNoRxMessages
    txMessagesEnabled := !masked std capabilitiesNoTxMessages
    ackdMessagesEnabled := !masked std capabilitiesNoAckdMessages
    burstTransferEnabled := !masked std capabilitiesNoBurstTransfer
    overunUnderrun := masked adv capabilitiesOverunUnderrun
    networkEnabled := masked adv capabilitiesNetworkEnabled
    apiVersion2 := masked adv capabilitiesAp1Version2
    serialNumberEnabled := masked adv capabilitiesSerialNumberEnabled
    perChannelTxPowerEnabled := masked adv capabilitiesPerChannelTxPowerEnabled
    lowPrioritySearchEnabled := masked adv capabilitiesLowPrioritySearchEnabled
    scriptEnabled := masked adv capabilitiesScriptEnabled
    searchListEnabled := masked adv capabilitiesSearchListEnabled
    ledEnabled := masked adv2 capabilitiesLedEnabled
    extMessageEnabled := masked adv2 capabilitiesExtMessageEnabled
    scanModeEnabled := masked adv2 capabilitiesScanModeEnabled
    proxSearchEnabled := masked adv2 capabilitiesProxSearchEnabled
    extAssignEnabled := masked adv2 capabilitiesExtAssignEnabled
    antfsEnabled := masked adv2 capabilitiesFsAntfsEnabled
    fit1Enabled := masked adv2 capabilitiesFit1Enabled
    advancedBurstEnabled := masked adv3 capabilitiesAdvancedBurstEnabled
    eventBufferingEnabled := masked adv3 capabilitiesEventBufferingEnabled
    eventFilteringEnabled := masked adv3 capabilitiesEventFilteringEnabled
    highDutySearchModeEnabled := masked adv3 capabilitiesHighDutySearchModeEnabled
    activeSearchSharingModeEnabled := masked adv3 capabilitiesActiveSearchSharingModeEnabled
    selectiveDataUpdateEnabled := masked adv3 capabilitiesSelectiveDataUpdateEnabled
    encryptedChannelEnabled := masked adv3 capabilitiesEncryptedChannelEnabled
    rfactiveNotificationEnabled := data[7].toNat.testBit 0 }

-- ---------------------------------------------------------------------------
-- Positions and masks
-- ---------------------------------------------------------------------------

/-- A flag read at the position `2 ^ i`, which is what `on?` does with a mask. -/
theorem isOn_mask (b : UInt8) {i : Nat} (hi : i < 8) :
    (BitVector.ofByte? (some b)).isOn (exposeConst (UInt8.ofNat (2 ^ i))) =
      b.toNat.testBit (2 ^ i) := by
  have hlt : 2 ^ i < 256 := Nat.pow_lt_pow_right (by decide) hi
  rw [exposeConst, BitVector.isOn_ofByte, UInt8.toNat_ofNat', Nat.mod_eq_of_lt hlt]

/-- A flag read with the mask `2 ^ i`. -/
theorem masked_eq (b : UInt8) {i : Nat} (hi : i < 8) :
    masked b (UInt8.ofNat (2 ^ i)) = b.toNat.testBit i := by
  have hlt : 2 ^ i < 256 := Nat.pow_lt_pow_right (by decide) hi
  have hand : (b &&& UInt8.ofNat (2 ^ i)).toNat = (b.toNat.testBit i).toNat * 2 ^ i := by
    rw [UInt8.toNat_and, UInt8.toNat_ofNat', Nat.mod_eq_of_lt hlt, Nat.and_two_pow]
  have hzero : b &&& UInt8.ofNat (2 ^ i) = 0 ↔ b.toNat.testBit i = false := by
    rw [← UInt8.toNat_inj, hand]
    cases b.toNat.testBit i <;> simp
  unfold masked
  cases h : b.toNat.testBit i with
  | false => simpa using hzero.mpr h
  | true => simpa [h] using hzero

/-- **Reading at `2 ^ i` in place of `i`.** Over bits that with each `i`
contain `2 ^ i`, as long as that is in the byte, the two readings agree only
if all bits are off: bit `i` is bit `2 ^ i`, which is bit `2 ^ 2 ^ i`, and so
on beyond the byte. -/
theorem agree_iff_off {b : UInt8} {bits : List Nat}
    (hclosed : ∀ i ∈ bits, 2 ^ i < 8 → 2 ^ i ∈ bits) :
    (∀ i ∈ bits, b.toNat.testBit (2 ^ i) = b.toNat.testBit i) ↔
      ∀ i ∈ bits, b.toNat.testBit i = false := by
  have hbyte : ∀ n, 8 ≤ n → b.toNat.testBit n = false := fun n hn =>
    Nat.testBit_lt_two_pow (lt_of_lt_of_le b.toNat_lt (Nat.pow_le_pow_right (by decide) hn))
  constructor
  · intro hagree
    -- the distance from the end of the byte falls along the chain
    have hdown : ∀ d i, i ∈ bits → 8 - i ≤ d → b.toNat.testBit i = false := by
      intro d
      induction d with
      | zero =>
        intro i _ hd
        exact hbyte i (by omega)
      | succ d ih =>
        intro i hi hd
        have hlt : i < 2 ^ i := Nat.lt_two_pow_self
        rw [← hagree i hi]
        by_cases hin : 2 ^ i < 8
        · exact ih _ (hclosed i hi hin) (by omega)
        · exact hbyte _ (by omega)
    exact fun i hi => hdown _ i hi (le_refl _)
  · intro hoff i hi
    rw [hoff i hi]
    by_cases hin : 2 ^ i < 8
    · exact hoff _ (hclosed i hi hin)
    · exact hbyte _ (by omega)

-- ---------------------------------------------------------------------------
-- The decoder
-- ---------------------------------------------------------------------------

/-- The masks of byte 2. -/
def standardMasks : List UInt8 :=
  [capabilitiesNoRxChannels, capabilitiesNoTxChannels, capabilitiesNoRxMessages,
    capabilitiesNoTxMessages, capabilitiesNoAckdMessages, capabilitiesNoBurstTransfer]

/-- The masks of byte 3. -/
def advancedMasks : List UInt8 :=
  [capabilitiesOverunUnderrun, capabilitiesNetworkEnabled, capabilitiesAp1Version2,
    capabilitiesSerialNumberEnabled, capabilitiesPerChannelTxPowerEnabled,
    capabilitiesLowPrioritySearchEnabled, capabilitiesScriptEnabled,
    capabilitiesSearchListEnabled]

/-- The masks of byte 4. -/
def advanced2Masks : List UInt8 :=
  [capabilitiesLedEnabled, capabilitiesExtMessageEnabled, capabilitiesScanModeEnabled,
    capabilitiesProxSearchEnabled, capabilitiesExtAssignEnabled, capabilitiesFsAntfsEnabled,
    capabilitiesFit1Enabled]

/-- The masks of byte 6. -/
def advanced3Masks : List UInt8 :=
  [capabilitiesAdvancedBurstEnabled, capabilitiesEventBufferingEnabled,
    capabilitiesEventFilteringEnabled, capabilitiesHighDutySearchModeEnabled,
    capabilitiesActiveSearchSharingModeEnabled, capabilitiesSelectiveDataUpdateEnabled,
    capabilitiesEncryptedChannelEnabled]

/-- `on?` reads the flag that the mask names. -/
def ReadsMask (byte mask : UInt8) : Prop :=
  (BitVector.ofByte? (some byte)).isOn (exposeConst mask) = masked byte mask

/-- No bit that one of the masks names is set. -/
def NoneSet (masks : List UInt8) (byte : UInt8) : Prop := ∀ m ∈ masks, masked byte m = false

/-- The masks of one byte: all of them are read right only where none of their
bits is set. -/
theorem readsMask_iff_noneSet (masks : List UInt8) (bits : List Nat)
    (hmasks : masks = bits.map fun i => UInt8.ofNat (2 ^ i)) (hbits : ∀ i ∈ bits, i < 8)
    (hclosed : ∀ i ∈ bits, 2 ^ i < 8 → 2 ^ i ∈ bits) (byte : UInt8) :
    (∀ m ∈ masks, ReadsMask byte m) ↔ NoneSet masks byte := by
  subst hmasks
  unfold NoneSet ReadsMask
  rw [List.forall_mem_map, List.forall_mem_map]
  calc (∀ i ∈ bits, _)
      ↔ ∀ i ∈ bits, byte.toNat.testBit (2 ^ i) = byte.toNat.testBit i := by
        refine forall₂_congr fun i hi => ?_
        rw [isOn_mask byte (hbits i hi), masked_eq byte (hbits i hi)]
    _ ↔ ∀ i ∈ bits, byte.toNat.testBit i = false := agree_iff_off hclosed
    _ ↔ ∀ i ∈ bits, masked byte (UInt8.ofNat (2 ^ i)) = false := by
        refine forall₂_congr fun i hi => ?_
        rw [masked_eq byte (hbits i hi)]

/-- The hashes agree when every flag is read as its mask says: the numbers are
the same, and each flag stands in one field. -/
theorem onCapabilities_eq_iff_readsMask (data : List UInt8) (h : 8 ≤ data.length) :
    onCapabilities data = maskCapabilities data h ↔
      (∀ m ∈ standardMasks, ReadsMask data[2] m) ∧ (∀ m ∈ advancedMasks, ReadsMask data[3] m) ∧
      (∀ m ∈ advanced2Masks, ReadsMask data[4] m) ∧
      ∀ m ∈ advanced3Masks, ReadsMask data[6] m := by
  have hbyte : ∀ i (hi : i < data.length), data[i]? = some data[i] := fun i hi =>
    List.getElem?_eq_getElem hi
  have hrf : (BitVector.ofByte? (some data[7])).isOn
      (exposeConst capabilitiesRfactiveNotificationEnabled) = data[7].toNat.testBit 0 :=
    BitVector.isOn_ofByte data[7] 0
  simp (disch := omega) only [onCapabilities, maskCapabilities, hbyte, Capabilities.mk.injEq, hrf,
    BitVector.isOff, Bool.not_inj_iff, standardMasks, advancedMasks, advanced2Masks,
    advanced3Masks, List.forall_mem_cons, List.not_mem_nil, false_implies, implies_true, ReadsMask,
    true_and, and_true, and_assoc]

/-- **Capabilities.** For every payload of at least 8 bytes, the hash that
`on_capabilities` stores is the one that the masks define if and only if bytes
2, 3, 4 and 6 have none of the bits that their masks name. -/
theorem onCapabilities_iff (data : List UInt8) (h : 8 ≤ data.length) :
    onCapabilities data = maskCapabilities data h ↔
      NoneSet standardMasks data[2] ∧ NoneSet advancedMasks data[3] ∧
      NoneSet advanced2Masks data[4] ∧ NoneSet advanced3Masks data[6] := by
  have hstd := readsMask_iff_noneSet standardMasks [0, 1, 2, 3, 4, 5] rfl
    (by decide) (by decide) data[2]
  have hadv := readsMask_iff_noneSet advancedMasks [0, 1, 2, 3, 4, 5, 6, 7] rfl
    (by decide) (by decide) data[3]
  have hadv2 := readsMask_iff_noneSet advanced2Masks [0, 1, 2, 4, 5, 6, 7] rfl
    (by decide) (by decide) data[4]
  have hadv3 := readsMask_iff_noneSet advanced3Masks [0, 1, 2, 3, 4, 6, 7] rfl
    (by decide) (by decide) data[6]
  rw [onCapabilities_eq_iff_readsMask, hstd, hadv, hadv2, hadv3]

/-- Bits that no mask names may be set. -/
theorem onCapabilities_iff_reservedBits :
    onCapabilities [8, 3, 0xC0, 0, 0x08, 0, 0x20, 1] =
      maskCapabilities [8, 3, 0xC0, 0, 0x08, 0, 0x20, 1] (by decide) :=
  (onCapabilities_iff [8, 3, 0xC0, 0, 0x08, 0, 0x20, 1] (by decide)).mpr
    (by unfold NoneSet; decide +kernel)

/-- **Flags read at the wrong bit.** A device with network keys, a serial
number and transmit power for each channel (byte 3 is `0x1A`) is stored as one
with none of them, but with overrun support and API version 2; and no flag of
byte 3 tells `0xE8` from `0`. -/
theorem capabilities_misread :
    onCapabilities [8, 3, 0, 0x1A, 0, 0, 0, 0] ≠
      maskCapabilities [8, 3, 0, 0x1A, 0, 0, 0, 0] (by decide) ∧
    onCapabilities [8, 3, 0, 0xE8, 0, 0, 0, 0] = onCapabilities [8, 3, 0, 0, 0, 0, 0, 0] := by
  decide +kernel

end AntWireless.Response
