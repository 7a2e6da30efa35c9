import AntWireless.BitVector
import AntWireless.Defines
import AntWireless.Lib.Bytes
import AntWireless.Lib.Except
import AntWireless.Ruby.Format

/-!
# AntWireless — advanced burst configuration, there and back

`Ant.enable_advanced_burst` hands codes and masks to the library;
`on_config_adv_burst_id` reads the device's reply into a hash.

* `enableAdvancedBurst` — the library call, with what `configure_advanced_burst` makes of
  its arguments; `onConfigAdvBurstId` — what is stored of a reply.
* `RoundTrip` — the hash says what the options said.
* `advancedBurst_not_roundTrip` — no options come back: the packet length is stored
  as its code, and frequency hopping is looked for at the wrong bit.
-/

namespace AntWireless.Response

-- ---------------------------------------------------------------------------
-- The encoder
-- ---------------------------------------------------------------------------

/-- A value of `:frequency_hopping`. -/
inductive FrequencyHopping
  | required
  | optional
  | other (v : Value)
  deriving DecidableEq, Repr

/-- The options of `Ant.enable_advanced_burst`; an absent one is `none`. -/
structure GivenOptions where
  maxPacketLength : Option Value
  frequencyHopping : Option FrequencyHopping
  stallCount : Option Value
  retryCount : Option Value
  deriving DecidableEq, Repr

/-- The options after `DEFAULT_ADVANCED_OPTIONS.merge( options )`. -/
structure AdvancedOptions where
  maxPacketLength : Value
  frequencyHopping : FrequencyHopping
  stallCount : Value
  retryCount : Value
  deriving DecidableEq, Repr

def defaultAdvancedOptions : AdvancedOptions := ⟨.int 24, .optional, .int 0, .int 0⟩

/-- `DEFAULT_ADVANCED_OPTIONS.merge( options )`. -/
def mergeOptions (o : GivenOptions) : AdvancedOptions where
  maxPacketLength := o.maxPacketLength.getD defaultAdvancedOptions.maxPacketLength
  frequencyHopping := o.frequencyHopping.getD defaultAdvancedOptions.frequencyHopping
  stallCount := o.stallCount.getD defaultAdvancedOptions.stallCount
  retryCount := o.retryCount.getD defaultAdvancedOptions.retryCount

/-- `convert_max_packet_length`; its message ends with the inspected length. -/
def convertMaxPacketLength (length : Value) : Except RubyError Value :=
  if length.isNumber 8 then .ok (.int 0x01)
  else if length.isNumber 16 then .ok (.int 0x02)
  else if length.isNumber 24 then .ok (.int 0x03)
  else .error (.argError "invalid max packet length; expected 8, 16, or 24, got ")

/-- `make_required_fields_config`. -/
def makeRequiredFieldsConfig (o : AdvancedOptions) : Value :=
  .int (if o.frequencyHopping = .required then 0x01 else 0)

/-- `make_optional_fields_config`. -/
def makeOptionalFieldsConfig (o : AdvancedOptions) : Value :=
  .int (if o.frequencyHopping = .optional then 0x01 else 0)

/-- `ANT_ConfigureAdvancedBurst_ext` with its arguments. -/
structure AdvancedBurstCall where
  bEnable : Bool
  ucMaxPacketLength : UInt8
  ulRequiredFields : UInt64
  ulOptionalFields : UInt64
  usStallCount : UInt16
  ucRetryCount : UInt8
  deriving DecidableEq, Repr

/-- `NUM2ULONG`. -/
def num2ulong (v : Value) : Except RubyError UInt64 :=
  (v.toInteger.bind (checkRange (-9223372036854775808) 18446744073709551615)).map
    fun i => UInt64.ofInt i

/-- `if ( RTEST(v) ) x = NUM2USHORT( v )` for an `x` that is 0. -/
def optionalUshort (v : Value) : Except RubyError UInt16 := if v.rtest then num2ushort v else .ok 0

/-- `rant_s_configure_advanced_burst` up to its library call. -/
def rantSConfigureAdvancedBurst (enabled maxPacketLength requiredFields optionalFields
    stallCount retryCount : Value) : Except RubyError AdvancedBurstCall := do
  let ucMaxPacketLength ← num2chr maxPacketLength
  let ulRequiredFields ← num2ulong requiredFields
  let ulOptionalFields ← num2ulong optionalFields
  let usStallCount ← optionalUshort stallCount
  let ucRetryCount ← optionalChr retryCount
  return ⟨enabled.rtest, ucMaxPacketLength, ulRequiredFields, ulOptionalFields, usStallCount,
    ucRetryCount⟩

/-- `Ant.enable_advanced_burst` up to its library call. -/
def enableAdvancedBurst (given : GivenOptions) : Except RubyError AdvancedBurstCall := do
  let options := mergeOptions given
  let maxPacketLength ← convertMaxPacketLength options.maxPacketLength
  let requiredFields := makeRequiredFieldsConfig options
  let optionalFields := makeOptionalFieldsConfig options
  rantSConfigureAdvancedBurst .true maxPacketLength requiredFields optionalFields
    options.stallCount options.retryCount

-- ---------------------------------------------------------------------------
-- The decoder
-- ---------------------------------------------------------------------------

/-- The hash in `Ant.advanced_burst_capabilities`. -/
structure AdvancedBurstCapabilities where
  maxPacketLength : Option Nat
  frequencyHopping : Bool
  deriving DecidableEq, Repr

/-- The symbols of feature lists. -/
inductive Feature
  | frequencyHopping
  deriving DecidableEq, Repr

/-- The hash in `Ant.advanced_burst_config`; numbers are `nil` where the data
is too short. -/
structure AdvancedBurstConfig where
  enabled : Bool
  maxPacketLength : Option Nat
  requiredFeatures : List Feature
  optionalFeatures : List Feature
  stallCount : Option Nat
  retryCountExtension : Option Nat
  deriving DecidableEq, Repr

/-- What `on_config_adv_burst_id` stores, by the type of the reply. -/
inductive AdvancedBurstReply
  | capabilities (caps : AdvancedBurstCapabilities)
  | config (config : AdvancedBurstConfig)
  | unknown
  deriving DecidableEq, Repr

/-- `Ant::BitVector.new` of an unpacked number; `nil.to_i` is 0. -/
def bitVector (n : Option Nat) : BitVector := ⟨n.getD 0⟩

/-- `on?( Ant::ADV_BURST_CONFIG_FREQ_HOP )`. -/
def freqHopOn (v : BitVector) : Bool := v.isOn advBurstConfigFreqHop.toNat

/-- `features << :frequency_hopping if vector.on?( Ant::ADV_BURST_CONFIG_FREQ_HOP )`. -/
def featureList (v : BitVector) : List Feature := if freqHopOn v then [.frequencyHopping] else []

/-- The data of a capabilities reply, unpacked with `'CV'`. -/
def unpackCapabilities (data : List UInt8) : AdvancedBurstCapabilities :=
  let (maxPacketLength, data) := Bytes.unpackLe 1 data
  let (features, _) := Bytes.unpackLe 4 data
  ⟨maxPacketLength, freqHopOn (bitVector features)⟩

/-- The data of a configuration reply, unpacked with `'CCVVvC'`. -/
def unpackConfig (data : List UInt8) : AdvancedBurstConfig :=
  let (enabled, data) := Bytes.unpackLe 1 data
  let (maxPacketLength, data) := Bytes.unpackLe 1 data
  let (required, data) := Bytes.unpackLe 4 data
  let (optional, data) := Bytes.unpackLe 4 data
  let (stallCount, data) := Bytes.unpackLe 2 data
  let (retryCount, _) := Bytes.unpackLe 1 data
  { enabled := enabled = some 1
    maxPacketLength := maxPacketLength
    requiredFeatures := featureList (bitVector required)
    optionalFeatures := featureList (bitVector optional)
    stallCount := stallCount
    retryCountExtension := retryCount }

/-- `on_config_adv_burst_id`; the type is the channel number of the response. -/
def onConfigAdvBurstId (type : UInt8) (data : List UInt8) : AdvancedBurstReply :=
  if type = 0 then .capabilities (unpackCapabilities data)
  else if type = 1 then .config (unpackConfig data)
  else .unknown

-- ---------------------------------------------------------------------------
-- The round trip
-- ---------------------------------------------------------------------------

/-- The device reports the values it was given, packed with `'CCVVvC'`. -/
def configReply (c : AdvancedBurstCall) : List UInt8 :=
  Bytes.packLe 1 c.bEnable.toNat ++ (Bytes.packLe 1 c.ucMaxPacketLength.toNat ++
    (Bytes.packLe 4 c.ulRequiredFields.toNat ++ (Bytes.packLe 4 c.ulOptionalFields.toNat ++
      (Bytes.packLe 2 c.usStallCount.toNat ++ (Bytes.packLe 1 c.ucRetryCount.toNat ++ [])))))

/-- The stored configuration says what the options said. -/
structure RoundTrip (o : AdvancedOptions) (config : AdvancedBurstConfig) : Prop where
  enabled : config.enabled = true
  maxPacketLength : ∃ n : Nat, config.maxPacketLength = some n ∧ o.maxPacketLength.isNumber n
  required : .frequencyHopping ∈ config.requiredFeatures ↔ o.frequencyHopping = .required
  optional : .frequencyHopping ∈ config.optionalFeatures ↔ o.frequencyHopping = .optional
  stallCount : ∀ i, o.stallCount = .int i → config.stallCount.map Int.ofNat = some i
  retryCount : ∀ i, o.retryCount = .int i → config.retryCountExtension.map Int.ofNat = some i

section RoundTrip

variable {given : GivenOptions} {call : AdvancedBurstCall}

/-- Every word comes back as it was: the reply has its bytes in the order in
which they are unpacked. -/
theorem unpackConfig_configReply (c : AdvancedBurstCall) :
    unpackConfig (configReply c) =
      { enabled := c.bEnable
        maxPacketLength := some c.ucMaxPacketLength.toNat
        requiredFeatures := featureList ⟨(c.ulRequiredFields.toNat % 256 ^ 4 : Nat)⟩
        optionalFeatures := featureList ⟨(c.ulOptionalFields.toNat % 256 ^ 4 : Nat)⟩
        stallCount := some c.usStallCount.toNat
        retryCountExtension := some c.ucRetryCount.toNat } := by
  have hmax : c.ucMaxPacketLength.toNat % 256 ^ 1 = c.ucMaxPacketLength.toNat :=
    Nat.mod_eq_of_lt c.ucMaxPacketLength.toNat_lt
  have hstall : c.usStallCount.toNat % 256 ^ 2 = c.usStallCount.toNat :=
    Nat.mod_eq_of_lt c.usStallCount.toNat_lt
  have hretry : c.ucRetryCount.toNat % 256 ^ 1 = c.ucRetryCount.toNat :=
    Nat.mod_eq_of_lt c.ucRetryCount.toNat_lt
  have henabled : decide (some (c.bEnable.toNat % 256 ^ 1) = some 1) = c.bEnable := by
    cases c.bEnable <;> rfl
  simp only [unpackConfig, configReply, Bytes.unpackLe_packLe, hmax, hstall, hretry, henabled,
    bitVector, Option.getD_some]

/-- The mask of frequency hopping is 0x01, and the bit looked at is bit 1: a
word that has no other bits has no features. -/
theorem featureList_of_lt_two {n : Nat} (h : n < 2) : featureList ⟨(n : Nat)⟩ = [] := by
  have hbit : freqHopOn ⟨(n : Nat)⟩ = false := by
    rw [freqHopOn, BitVector.isOn_eq]
    exact Nat.testBit_lt_two_pow h
  rw [featureList, hbit]
  rfl

/-- The code of a packet length is the number of its 8-byte blocks. -/
theorem convertMaxPacketLength_eq_ok {length code : Value}
    (h : convertMaxPacketLength length = .ok code) :
    ∃ n : Nat, 0 < n ∧ n < 4 ∧ code = .int n ∧ length.isNumber (8 * n : Nat) = true := by
  unfold convertMaxPacketLength at h
  split at h
  · cases h
    exact ⟨1, by decide, by decide, rfl, by assumption⟩
  · split at h
    · cases h
      exact ⟨2, by decide, by decide, rfl, by assumption⟩
    · split at h
      · cases h
        exact ⟨3, by decide, by decide, rfl, by assumption⟩
      · cases h

/-- The arguments of the library call, from the merged options: the number of
blocks, words with the bit of frequency hopping at most, and the two counts.
Anything else has raised before. -/
theorem enableAdvancedBurst_eq_ok (h : enableAdvancedBurst given = .ok call) :
    ∃ n : Nat, 0 < n ∧ (mergeOptions given).maxPacketLength.isNumber (8 * n : Nat) = true ∧
      call.bEnable = true ∧ call.ucMaxPacketLength.toNat = n ∧
      call.ulRequiredFields.toNat < 2 ∧ call.ulOptionalFields.toNat < 2 ∧
      optionalUshort (mergeOptions given).stallCount = .ok call.usStallCount ∧
      optionalChr (mergeOptions given).retryCount = .ok call.ucRetryCount := by
  simp only [enableAdvancedBurst, rantSConfigureAdvancedBurst, bind, pure, Except.pure,
    Except.bind_eq_ok_iff, Except.ok.injEq] at h
  obtain ⟨code, hcode, max, hmax, req, hreq, opt, hopt, stall, hstall, retry, hretry, rfl⟩ := h
  obtain ⟨n, hpos, hlt, rfl, hlength⟩ := convertMaxPacketLength_eq_ok hcode
  refine ⟨n, hpos, hlength, rfl, ?_, ?_, ?_, hstall, hretry⟩
  · have hn : n = 1 ∨ n = 2 ∨ n = 3 := by omega
    rcases hn with rfl | rfl | rfl <;> cases hmax <;> rfl
  · show req.toNat < 2
    unfold makeRequiredFieldsConfig at hreq
    split at hreq <;> cases hreq <;> decide
  · show opt.toNat < 2
    unfold makeOptionalFieldsConfig at hopt
    split at hopt <;> cases hopt <;> decide

/-- A count that fits its word is the one that is stored; 0 is sent where it
is omitted. -/
theorem optionalUshort_int {i : Int} {u : UInt16} (h : optionalUshort (.int i) = .ok u)
    (hi : 0 ≤ i ∧ i ≤ 65535) : u.toNat = i := by
  have hu := num2ushort_int_iff.mp h
  omega

/-- The same for the retry count, which has a byte. -/
theorem optionalChr_int {i : Int} {c : UInt8} (h : optionalChr (.int i) = .ok c)
    (hi : 0 ≤ i ∧ i ≤ 255) : c.toNat = i := by
  have hc := num2chr_int_iff.mp h
  omega

/-- **Nothing comes back.** Whatever options are accepted, the configuration
stored of the device's report of them does not say what they said: in place of
the packet length it has the number of 8-byte blocks, and it has no features.
The other fields come back, as far as the counts fit their words. -/
theorem advancedBurst_not_roundTrip (h : enableAdvancedBurst given = .ok call) :
    ∃ config, onConfigAdvBurstId 1 (configReply call) = .config config ∧
      ¬ RoundTrip (mergeOptions given) config ∧
      (∃ n, config.maxPacketLength = some n ∧
        (mergeOptions given).maxPacketLength.isNumber (8 * n : Nat) = true) ∧
      config.requiredFeatures = [] ∧ config.optionalFeatures = [] ∧ config.enabled = true ∧
      (∀ i, (mergeOptions given).stallCount = .int i → 0 ≤ i ∧ i ≤ 65535 →
        config.stallCount.map Int.ofNat = some i) ∧
      ∀ i, (mergeOptions given).retryCount = .int i → 0 ≤ i ∧ i ≤ 255 →
        config.retryCountExtension.map Int.ofNat = some i := by
  obtain ⟨n, hpos, hlength, henabled, hmax, hreq, hopt, hstall, hretry⟩ :=
    enableAdvancedBurst_eq_ok h
  refine ⟨unpackConfig (configReply call), rfl, ?_, ?_, ?_, ?_, ?_, ?_, ?_⟩ <;>
    rw [unpackConfig_configReply]
  · intro hround
    obtain ⟨m, hm, hnumber⟩ := hround.maxPacketLength
    rw [hmax, Option.some.injEq] at hm
    subst hm
    have hsame := Value.isNumber_inj hlength hnumber
    omega
  · exact ⟨n, congrArg some hmax, hlength⟩
  · exact featureList_of_lt_two (Nat.lt_of_le_of_lt (Nat.mod_le _ _) hreq)
  · exact featureList_of_lt_two (Nat.lt_of_le_of_lt (Nat.mod_le _ _) hopt)
  · exact henabled
  · intro i hi hrange
    rw [hi] at hstall
    exact congrArg some (optionalUshort_int hstall hrange)
  · intro i hi hrange
    rw [hi] at hretry
    exact congrArg some (optionalChr_int hretry hrange)

/-- The default options: 24 bytes, and hopping optional. -/
theorem advancedBurst_not_roundTrip_defaults : ∃ config,
    enableAdvancedBurst ⟨none, none, none, none⟩ = .ok ⟨true, 3, 0, 1, 0, 0⟩ ∧
    onConfigAdvBurstId 1 (configReply ⟨true, 3, 0, 1, 0, 0⟩) = .config config ∧
    ¬ RoundTrip defaultAdvancedOptions config := by
  have hcall : enableAdvancedBurst ⟨none, none, none, none⟩ = .ok ⟨true, 3, 0, 1, 0, 0⟩ := rfl
  obtain ⟨config, hconfig, hround, -⟩ := advancedBurst_not_roundTrip hcall
  exact ⟨config, hcall, hconfig, hround⟩

/-- **24 bytes come back as 3, and required frequency hopping as none.** -/
theorem requiredHopping_lost :
    enableAdvancedBurst ⟨some (.int 24), some .required, some (.int 3210), some (.int 4)⟩ =
      .ok ⟨true, 3, 1, 0, 3210, 4⟩ ∧
    onConfigAdvBurstId 1 (configReply ⟨true, 3, 1, 0, 3210, 4⟩) =
      .config ⟨true, some 3, [], [], some 3210, some 4⟩ ∧
    ¬ RoundTrip ⟨.int 24, .required, .int 3210, .int 4⟩
      ⟨true, some 3, [], [], some 3210, some 4⟩ := by
  refine ⟨rfl, by decide, fun hround => ?_⟩
  have hfeature := hround.required.mpr rfl
  cases hfeature

end RoundTrip

end AntWireless.Response
