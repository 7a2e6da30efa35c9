import AntWireless.Channel.Model
import AntWireless.Lib.Except

/-!
# AntWireless — channel settings and the attributes that record them

`set_channel_id`, `set_channel_period` and `set_channel_search_timeout` raise where their
library call fails; `set_channel_rf_freq` and `set_frequency_agility` do not look at its
result. Three of the five record their arguments in instance variables.

* `Setter`, `Setter.perform` — the methods; `perform_eq` is all that one does.
* `rantSTransmitPowerEq` — `Ant.transmit_power=`.
-/

namespace AntWireless.Channel

-- ---------------------------------------------------------------------------
-- Library calls
-- ---------------------------------------------------------------------------

/-- The library calls of the methods below, with the arguments they pass. -/
inductive SettingCall
  | setChannelIdRTO (n : UInt8) (usDeviceNumber : UInt16) (ucDeviceType ucTransmissionType : UInt8)
      (ulResponseTime : UInt32)
  | setChannelPeriodRTO (n : UInt8) (usMesgPeriod : UInt16) (ulResponseTime : UInt32)
  | setChannelSearchTimeoutRTO (n ucSearchTimeout : UInt8) (ulResponseTime : UInt32)
  | setChannelRFFreq (n ucRFFreq : UInt8)
  | configFrequencyAgility (n ucFreq1 ucFreq2 ucFreq3 : UInt8)
  | setTransmitPower (ucTransmitPower : UInt8)
  deriving DecidableEq, Repr

/-- A method returns or raises, makes library calls and leaves the channel. -/
structure SettingOutcome where
  value : Except RubyError Value
  calls : List SettingCall
  channel : ChannelObject
  deriving Repr

/-- `set_channel_id` up to its library call. -/
def channelIdCall (n : UInt8) (deviceNumber deviceType transmissionType timeout : Value) :
    Except RubyError SettingCall := do
  let usDeviceNumber ← num2ushort deviceNumber
  let ucDeviceType ← num2chr deviceType
  let ucTransmissionType ← num2chr transmissionType
  let ulResponseTime ← optionalUint timeout
  return .setChannelIdRTO n usDeviceNumber ucDeviceType ucTransmissionType ulResponseTime

/-- What `set_channel_id` gets past: all three values of the id convert. -/
theorem channelIdCall_isOk {n : UInt8} {deviceNumber deviceType transmissionType timeout : Value}
    (h : (channelIdCall n deviceNumber deviceType transmissionType timeout).isOk = true) :
    ∃ d t x, num2ushort deviceNumber = .ok d ∧ num2chr deviceType = .ok t ∧
      num2chr transmissionType = .ok x := by
  simp only [channelIdCall, bind, Except.isOk_bind_iff] at h
  obtain ⟨d, hd, t, ht, x, hx, -⟩ := h
  exact ⟨d, t, x, hd, ht, hx⟩

/-- `set_channel_period` up to its library call. -/
def channelPeriodCall (n : UInt8) (period timeout : Value) : Except RubyError SettingCall := do
  let usMesgPeriod ← num2ushort period
  let ulResponseTime ← optionalUint timeout
  return .setChannelPeriodRTO n usMesgPeriod ulResponseTime

/-- `set_channel_search_timeout` up to its library call. -/
def channelSearchTimeoutCall (n : UInt8) (searchTimeout timeout : Value) :
    Except RubyError SettingCall := do
  let ucSearchTimeout ← num2chr searchTimeout
  let ulResponseTime ← optionalUint timeout
  return .setChannelSearchTimeoutRTO n ucSearchTimeout ulResponseTime

/-- `set_channel_rf_freq` up to its library call. -/
def channelRfFreqCall (n : UInt8) (frequency : Value) : Except RubyError SettingCall := do
  let ucRFFreq ← num2ushort frequency
  if 124 < ucRFFreq then .error (.argError "frequency must be between 0 and 124.")
  else return .setChannelRFFreq n ucRFFreq.toUInt8

/-- `set_frequency_agility` up to its library call. -/
def frequencyAgilityCall (n : UInt8) (freq1 freq2 freq3 : Value) :
    Except RubyError SettingCall := do
  let ucFreq1 ← num2chr freq1
  let ucFreq2 ← num2chr freq2
  let ucFreq3 ← num2chr freq3
  if 124 < ucFreq1 ∨ 124 < ucFreq2 ∨ 124 < ucFreq3 then
    .error (.argError "frequencies must be between 0 and 124.")
  else return .configFrequencyAgility n ucFreq1 ucFreq2 ucFreq3

/-- `Ant.transmit_power=` up to its library call. -/
def transmitPowerCall (power : Value) : Except RubyError SettingCall := do
  let ucTransmitPower ← num2chr power
  if 4 < ucTransmitPower then
    .error (.argError ("expected a value between 0 and 4, got " ++
      toString ucTransmitPower.toNat))
  else return .setTransmitPower ucTransmitPower

-- ---------------------------------------------------------------------------
-- The methods
-- ---------------------------------------------------------------------------

/-- A method that raises where its library call fails, and sets `ivars` where
it does not. -/
def checkedSetting (ch : ChannelObject) (call : Except RubyError SettingCall) (failure : String)
    (ivars : ChannelIvars) (ok : Bool) : SettingOutcome :=
  match call with
  | .error e => ⟨.error e, [], ch⟩
  | .ok c =>
    if ok then ⟨.ok .true, [c], { ch with ivars := ivars }⟩
    else ⟨.error (.runtimeError failure), [c], ch⟩

/-- A method that does not look at the result of its library call. -/
def uncheckedSetting (ch : ChannelObject) (call : Except RubyError SettingCall)
    (ivars : ChannelIvars) : SettingOutcome :=
  match call with
  | .error e => ⟨.error e, [], ch⟩
  | .ok c => ⟨.ok .true, [c], { ch with ivars := ivars }⟩

/-- `rant_channel_set_channel_id`; `ok` is whether its library call succeeds. -/
def rantChannelSetChannelId (ch : ChannelObject)
    (deviceNumber deviceType transmissionType timeout : Value) (ok : Bool) : SettingOutcome :=
  checkedSetting ch (channelIdCall ch.channelNum deviceNumber deviceType transmissionType timeout)
    "Failed to set the channel id."
    { ch.ivars with
      deviceType := deviceType
      deviceNumber := deviceNumber
      transmissionType := transmissionType }
    ok

/-- `rant_channel_set_channel_period`. -/
def rantChannelSetChannelPeriod (ch : ChannelObject) (period timeout : Value) (ok : Bool) :
    SettingOutcome :=
  checkedSetting ch (channelPeriodCall ch.channelNum period timeout)
    "Failed to set the channel period." ch.ivars ok

/-- `rant_channel_set_channel_search_timeout`. -/
def rantChannelSetChannelSearchTimeout (ch : ChannelObject) (searchTimeout timeout : Value)
    (ok : Bool) : SettingOutcome :=
  checkedSetting ch (channelSearchTimeoutCall ch.channelNum searchTimeout timeout)
    "Failed to set the channel search timeout." ch.ivars ok

/-- `rant_channel_set_channel_rf_freq`. -/
def rantChannelSetChannelRfFreq (ch : ChannelObject) (frequency : Value) (_ok : Bool) :
    SettingOutcome :=
  uncheckedSetting ch (channelRfFreqCall ch.channelNum frequency)
    { ch.ivars with rfFrequency := frequency }

/-- `rant_channel_set_frequency_agility`. -/
def rantChannelSetFrequencyAgility (ch : ChannelObject) (freq1 freq2 freq3 : Value) (_ok : Bool) :
    SettingOutcome :=
  uncheckedSetting ch (frequencyAgilityCall ch.channelNum freq1 freq2 freq3)
    { ch.ivars with agilityFrequencies := some [freq1, freq2, freq3] }

/-- `rant_s_transmit_power_eq`: what it returns or raises, and its library calls. -/
def rantSTransmitPowerEq (power : Value) (ok : Bool) :
    Except RubyError Value × List SettingCall :=
  match transmitPowerCall power with
  | .error e => (.error e, [])
  | .ok c => (.ok (if ok then .true else .false), [c])

/-- The setting methods of a channel, with their arguments; an omitted one is `nil`. -/
inductive Setter
  | channelId (deviceNumber deviceType transmissionType timeout : Value)
  | channelPeriod (period timeout : Value)
  | channelSearchTimeout (searchTimeout timeout : Value)
  | channelRfFreq (frequency : Value)
  | frequencyAgility (freq1 freq2 freq3 : Value)
  deriving DecidableEq, Repr

namespace Setter

def perform (p : Setter) (ch : ChannelObject) (ok : Bool) : SettingOutcome :=
  match p with
  | .channelId deviceNumber deviceType transmissionType timeout =>
    rantChannelSetChannelId ch deviceNumber deviceType transmissionType timeout ok
  | .channelPeriod period timeout => rantChannelSetChannelPeriod ch period timeout ok
  | .channelSearchTimeout searchTimeout timeout =>
    rantChannelSetChannelSearchTimeout ch searchTimeout timeout ok
  | .channelRfFreq frequency => rantChannelSetChannelRfFreq ch frequency ok
  | .frequencyAgility freq1 freq2 freq3 => rantChannelSetFrequencyAgility ch freq1 freq2 freq3 ok

/-- The library call the method gets to on the channel `n`. -/
def call (p : Setter) (n : UInt8) : Except RubyError SettingCall :=
  match p with
  | .channelId deviceNumber deviceType transmissionType timeout =>
    channelIdCall n deviceNumber deviceType transmissionType timeout
  | .channelPeriod period timeout => channelPeriodCall n period timeout
  | .channelSearchTimeout searchTimeout timeout => channelSearchTimeoutCall n searchTimeout timeout
  | .channelRfFreq frequency => channelRfFreqCall n frequency
  | .frequencyAgility freq1 freq2 freq3 => frequencyAgilityCall n freq1 freq2 freq3

/-- The method looks at the result of its library call. -/
def checksResult : Setter → Bool
  | .channelId .. | .channelPeriod .. | .channelSearchTimeout .. => true
  | .channelRfFreq _ | .frequencyAgility .. => false

/-- The attributes after the method has recorded its arguments. -/
def record (p : Setter) (ivars : ChannelIvars) : ChannelIvars :=
  match p with
  | .channelId deviceNumber deviceType transmissionType _ =>
    { ivars with
      deviceType := deviceType
      deviceNumber := deviceNumber
      transmissionType := transmissionType }
  | .channelPeriod .. | .channelSearchTimeout .. => ivars
  | .channelRfFreq frequency => { ivars with rfFrequency := frequency }
  | .frequencyAgility freq1 freq2 freq3 =>
    { ivars with agilityFrequencies := some [freq1, freq2, freq3] }

/-- The text of the error where a checked library call fails. -/
def failure : Setter → String
  | .channelId .. => "Failed to set the channel id."
  | .channelPeriod .. => "Failed to set the channel period."
  | .channelSearchTimeout .. => "Failed to set the channel search timeout."
  | .channelRfFreq _ | .frequencyAgility .. => ""

/-- All that a method does, from its library call, its record and whether it
checks. The facts below are about these three, for all methods at once; a new
setting needs no proof of its own. -/
theorem perform_eq (p : Setter) (ch : ChannelObject) (ok : Bool) :
    p.perform ch ok =
      if p.checksResult = true then
        checkedSetting ch (p.call ch.channelNum) p.failure (p.record ch.ivars) ok
      else uncheckedSetting ch (p.call ch.channelNum) (p.record ch.ivars) := by
  cases p <;> rfl

variable {p : Setter} {ch : ChannelObject} {c : SettingCall} {ok : Bool}

/-- An argument does not convert, or is out of range: the method raises, and
the channel is as it was. -/
theorem perform_rejected {e : RubyError} (h : p.call ch.channelNum = .error e) :
    p.perform ch ok = ⟨.error e, [], ch⟩ := by
  rw [perform_eq, h]
  split <;> rfl

/-- The library call succeeds, or nobody looks: the arguments are recorded. -/
theorem perform_recorded (h : p.call ch.channelNum = .ok c)
    (hok : ok = true ∨ p.checksResult = false) :
    p.perform ch ok = ⟨.ok .true, [c], { ch with ivars := p.record ch.ivars }⟩ := by
  rw [perform_eq, h]
  rcases hok with rfl | hchecks
  · split <;> rfl
  · rw [if_neg (by simp [hchecks])]
    rfl

/-- The library call fails, and the method raises. -/
theorem perform_failed (h : p.call ch.channelNum = .ok c) (hchecks : p.checksResult = true) :
    p.perform ch false = ⟨.error (.runtimeError p.failure), [c], ch⟩ := by
  rw [perform_eq, h, if_pos hchecks]
  rfl

end Setter

end AntWireless.Channel
