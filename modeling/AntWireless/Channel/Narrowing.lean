import AntWireless.Channel.Settings
import AntWireless.Lib.Except

/-!
# AntWireless — integers on their way to the library

`NUM2CHR` keeps the low byte of a C int, `NUM2USHORT` and `NUM2UINT` wrap negative
numbers. Range checks come after the conversion.

* `RadioCall`, `RadioCall.perform` — the methods, with the integers the library receives.
* `NoNarrowing` — a method raises before its library call or the library receives each
  integer as it was given; and a documented range is accepted exactly.
* `noNarrowing_iff` — that holds exactly of calls whose arguments do not all convert, or
  whose integers fit.
-/

namespace AntWireless.Channel

-- ---------------------------------------------------------------------------
-- The methods
-- ---------------------------------------------------------------------------

/-- The integers that the arguments of a library call stand for, but for the
channel number of a setting. -/
def LibraryCall.integers : LibraryCall → List Int
  | .assignChannelExtRTO n type network extend responseTime =>
    [n.toNat, type.toNat, network.toNat, extend.toNat, responseTime.toNat]
  | .closeChannelRTO n responseTime => [n.toNat, responseTime.toNat]
  | .assignChannelEventFunction n _ | .unAssignChannel n => [n.toNat]
  | .resetSystem | .close => []

def SettingCall.integers : SettingCall → List Int
  | .setChannelIdRTO _ usDeviceNumber ucDeviceType ucTransmissionType ulResponseTime =>
    [usDeviceNumber.toNat, ucDeviceType.toNat, ucTransmissionType.toNat, ulResponseTime.toNat]
  | .setChannelPeriodRTO _ usMesgPeriod ulResponseTime =>
    [usMesgPeriod.toNat, ulResponseTime.toNat]
  | .setChannelSearchTimeoutRTO _ ucSearchTimeout _ => [ucSearchTimeout.toNat]
  | .setChannelRFFreq _ ucRFFreq => [ucRFFreq.toNat]
  | .configFrequencyAgility _ ucFreq1 ucFreq2 ucFreq3 =>
    [ucFreq1.toNat, ucFreq2.toNat, ucFreq3.toNat]
  | .setTransmitPower ucTransmitPower => [ucTransmitPower.toNat]

/-- A method that sends integers to the radio, with its arguments. -/
inductive RadioCall
  | assignChannel (a : AssignArgs)
  | setChannelId (deviceNumber deviceType transmissionType timeout : Value)
  | setChannelSearchTimeout (searchTimeout timeout : Value)
  | setChannelRfFreq (frequency : Value)
  | setFrequencyAgility (freq1 freq2 freq3 : Value)
  | transmitPower (power : Value)
  deriving DecidableEq, Repr

namespace RadioCall

/-- The arguments, in the order in which the library call has them. -/
def given : RadioCall → List Value
  | .assignChannel a =>
    [a.channel, a.channelType, a.networkNumber, a.extendedOptions, a.timeout]
  | .setChannelId deviceNumber deviceType transmissionType timeout =>
    [deviceNumber, deviceType, transmissionType, timeout]
  | .setChannelSearchTimeout searchTimeout _ => [searchTimeout]
  | .setChannelRfFreq frequency => [frequency]
  | .setFrequencyAgility freq1 freq2 freq3 => [freq1, freq2, freq3]
  | .transmitPower power => [power]

/-- What the method returns or raises, and the integers of each library call
it makes. -/
def perform (c : RadioCall) (s : State) (ch : ChannelObject) (ok : Bool) :
    Except RubyError Unit × List (List Int) :=
  let setting (r : SettingOutcome) :=
    (r.value.map fun _ => (), r.calls.map SettingCall.integers)
  match c with
  | .assignChannel a =>
    let r := rantSAssignChannel s a ok
    (r.value.map fun _ => (), r.calls.map LibraryCall.integers)
  | .setChannelId deviceNumber deviceType transmissionType timeout =>
    setting (rantChannelSetChannelId ch deviceNumber deviceType transmissionType timeout ok)
  | .setChannelSearchTimeout searchTimeout timeout =>
    setting (rantChannelSetChannelSearchTimeout ch searchTimeout timeout ok)
  | .setChannelRfFreq frequency => setting (rantChannelSetChannelRfFreq ch frequency ok)
  | .setFrequencyAgility freq1 freq2 freq3 =>
    setting (rantChannelSetFrequencyAgility ch freq1 freq2 freq3 ok)
  | .transmitPower power =>
    let r := rantSTransmitPowerEq power ok
    (r.1.map fun _ => (), r.2.map SettingCall.integers)

/-- The largest value of a documented range that starts at 0. -/
def documentedMax : RadioCall → Option Int
  | .setChannelRfFreq _ | .setFrequencyAgility .. => some 124
  | .transmitPower _ => some 4
  | _ => none

end RadioCall

-- ---------------------------------------------------------------------------
-- The property and its condition
-- ---------------------------------------------------------------------------

/-- An Integer is received as it is. -/
def Keeps (v : Value) (r : Int) : Prop := ∀ i, v = .int i → r = i

/-- The method raises before any library call, or the library receives each
Integer as it is; and Integers are accepted exactly in the documented
range. -/
structure NoNarrowing (c : RadioCall) (s : State) (ch : ChannelObject) (ok : Bool) : Prop where
  exact : (∃ e, c.perform s ch ok = (.error e, [])) ∨
    ∃ r ints, c.perform s ch ok = (r, [ints]) ∧ List.Forall₂ Keeps c.given ints
  range : ∀ max, c.documentedMax = some max → ∀ ints : List Int, c.given = ints.map .int →
    ((c.perform s ch ok).2 ≠ [] ↔ ∀ i ∈ ints, 0 ≤ i ∧ i ≤ max)

/-- An Integer lies in `0..max`. -/
def Within (max : Int) (v : Value) : Prop := ∀ i, v = .int i → 0 ≤ i ∧ i ≤ max

/-- An argument does not convert, or passes no range check, or each Integer fits. -/
def Fits : RadioCall → Prop
  | .assignChannel a =>
    (num2chr a.channel).isOk → (num2chr a.channelType).isOk → (optionalChr a.networkNumber).isOk →
    (optionalChr a.extendedOptions).isOk → (optionalChr a.timeout).isOk →
      Within 255 a.channel ∧ Within 255 a.channelType ∧ Within 255 a.networkNumber ∧
      Within 255 a.extendedOptions ∧ Within 255 a.timeout
  | .setChannelId deviceNumber deviceType transmissionType timeout =>
    (num2ushort deviceNumber).isOk → (num2chr deviceType).isOk →
    (num2chr transmissionType).isOk → (optionalUint timeout).isOk →
      Within 65535 deviceNumber ∧ Within 255 deviceType ∧ Within 255 transmissionType ∧
      Within 4294967295 timeout
  | .setChannelSearchTimeout searchTimeout timeout =>
    (num2chr searchTimeout).isOk → (optionalUint timeout).isOk → Within 255 searchTimeout
  | .setChannelRfFreq _ => True
  | .setFrequencyAgility freq1 freq2 freq3 =>
    (∀ v ∈ [freq1, freq2, freq3], ∃ c, num2chr v = .ok c ∧ c ≤ 124) →
      ∀ v ∈ [freq1, freq2, freq3], Within 124 v
  | .transmitPower power => (∃ c, num2chr power = .ok c ∧ c ≤ 4) → Within 4 power

-- ---------------------------------------------------------------------------
-- Conversions of integers
-- ---------------------------------------------------------------------------

/-- `NUM2CHR` passes the low byte on: an Integer is kept exactly if it is a byte. -/
theorem keeps_num2chr {v : Value} {c : UInt8} (h : num2chr v = .ok c) :
    Keeps v c.toNat ↔ Within 255 v := by
  refine forall₂_congr fun i hi => ?_
  subst hi
  have hc := num2chr_int_iff.mp h
  omega

theorem keeps_num2ushort {v : Value} {u : UInt16} (h : num2ushort v = .ok u) :
    Keeps v u.toNat ↔ Within 65535 v := by
  refine forall₂_congr fun i hi => ?_
  subst hi
  have hu := num2ushort_int_iff.mp h
  omega

theorem keeps_num2uint {v : Value} {u : UInt32} (h : num2uint v = .ok u) :
    Keeps v u.toNat ↔ Within 4294967295 v := by
  refine forall₂_congr fun i hi => ?_
  subst hi
  have hu := num2uint_int_iff.mp h
  omega

/-- An omitted argument is no Integer, so whatever is sent in its place keeps it. -/
theorem keeps_of_not_rtest {v : Value} {max r : Int} (h : ¬ v.rtest = true) :
    Keeps v r ↔ Within max v := by
  refine forall₂_congr fun i hi => ?_
  subst hi
  exact absurd rfl h

theorem keeps_optionalChr {v : Value} {c : UInt8} (h : optionalChr v = .ok c) :
    Keeps v c.toNat ↔ Within 255 v := by
  unfold optionalChr at h
  split at h
  · exact keeps_num2chr h
  · exact keeps_of_not_rtest (by assumption)

theorem keeps_optionalUint {v : Value} {u : UInt32} (h : optionalUint v = .ok u) :
    Keeps v u.toNat ↔ Within 4294967295 v := by
  unfold optionalUint at h
  split at h
  · exact keeps_num2uint h
  · exact keeps_of_not_rtest (by assumption)

-- ---------------------------------------------------------------------------
-- From the methods to their conversions
-- ---------------------------------------------------------------------------

namespace RadioCall

/-- The integers of the library call that the method gets to. -/
def reached (c : RadioCall) (n : UInt8) : Except RubyError (List Int) :=
  match c with
  | .assignChannel a => (assignCall a).map LibraryCall.integers
  | .setChannelId deviceNumber deviceType transmissionType timeout =>
    (channelIdCall n deviceNumber deviceType transmissionType timeout).map SettingCall.integers
  | .setChannelSearchTimeout searchTimeout timeout =>
    (channelSearchTimeoutCall n searchTimeout timeout).map SettingCall.integers
  | .setChannelRfFreq frequency => (channelRfFreqCall n frequency).map SettingCall.integers
  | .setFrequencyAgility freq1 freq2 freq3 =>
    (frequencyAgilityCall n freq1 freq2 freq3).map SettingCall.integers
  | .transmitPower power => (transmitPowerCall power).map SettingCall.integers

variable (s : State) (ch : ChannelObject) (ok : Bool)

/-- A setting method gets to its library call, or raises before; whether the
call then succeeds is no matter here. -/
theorem setting_reached (p : Setter) :
    (∃ e, p.call ch.channelNum = .error e ∧ p.perform ch ok = ⟨.error e, [], ch⟩) ∨
    ∃ c, p.call ch.channelNum = .ok c ∧ (p.perform ch ok).calls = [c] := by
  cases hc : p.call ch.channelNum with
  | error e => exact .inl ⟨e, rfl, Setter.perform_rejected hc⟩
  | ok c =>
    refine .inr ⟨c, rfl, ?_⟩
    by_cases hok : ok = true ∨ p.checksResult = false
    · rw [Setter.perform_recorded hc hok]
    · simp only [not_or, Bool.not_eq_true, Bool.not_eq_false] at hok
      rw [hok.1, Setter.perform_failed hc hok.2]

/-- All that is to know of a method here is what it reaches: the integers of
its one library call, or the exception before it. What comes after the library
call changes neither. -/
theorem perform_reached (c : RadioCall) :
    (∃ e, c.reached ch.channelNum = .error e ∧ c.perform s ch ok = (.error e, [])) ∨
    ∃ r ints, c.reached ch.channelNum = .ok ints ∧ c.perform s ch ok = (r, [ints]) := by
  have hsetting : ∀ p : Setter,
      (∃ e, (p.call ch.channelNum).map SettingCall.integers = .error e ∧
        ((p.perform ch ok).value.map fun _ => (), (p.perform ch ok).calls.map
          SettingCall.integers) = ((.error e : Except RubyError Unit), [])) ∨
      ∃ r ints, (p.call ch.channelNum).map SettingCall.integers = .ok ints ∧
        ((p.perform ch ok).value.map fun _ => (), (p.perform ch ok).calls.map
          SettingCall.integers) = ((r : Except RubyError Unit), [ints]) := by
    intro p
    rcases setting_reached ch ok p with ⟨e, hc, hp⟩ | ⟨c, hc, hp⟩
    · exact .inl ⟨e, by rw [hc]; rfl, by rw [hp]; rfl⟩
    · exact .inr ⟨_, c.integers, by rw [hc]; rfl, by rw [hp]; rfl⟩
  cases c with
  | assignChannel a =>
    show (∃ e, (assignCall a).map LibraryCall.integers = .error e ∧ _) ∨
      ∃ r ints, (assignCall a).map LibraryCall.integers = .ok ints ∧ _
    simp only [perform, rantSAssignChannel]
    cases hc : assignCall a with
    | error e => exact .inl ⟨e, rfl, rfl⟩
    | ok c => cases ok <;> exact .inr ⟨_, c.integers, rfl, rfl⟩
  | setChannelId deviceNumber deviceType transmissionType timeout =>
    exact hsetting (.channelId deviceNumber deviceType transmissionType timeout)
  | setChannelSearchTimeout searchTimeout timeout =>
    exact hsetting (.channelSearchTimeout searchTimeout timeout)
  | setChannelRfFreq frequency => exact hsetting (.channelRfFreq frequency)
  | setFrequencyAgility freq1 freq2 freq3 => exact hsetting (.frequencyAgility freq1 freq2 freq3)
  | transmitPower power =>
    simp only [perform, reached, rantSTransmitPowerEq]
    cases hc : transmitPowerCall power with
    | error e => exact .inl ⟨e, rfl, rfl⟩
    | ok c => exact .inr ⟨_, c.integers, rfl, rfl⟩

/-- The property, in terms of what the method reaches: it depends neither on
the state nor on whether the library call succeeds. The first part is about
the integers that arrive, the second about the range that the method
documents. -/
theorem noNarrowing_iff_reached (c : RadioCall) :
    NoNarrowing c s ch ok ↔
      (∀ ints, c.reached ch.channelNum = .ok ints → List.Forall₂ Keeps c.given ints) ∧
      ∀ max, c.documentedMax = some max → ∀ ints : List Int, c.given = ints.map .int →
        ((∃ l, c.reached ch.channelNum = .ok l) ↔ ∀ i ∈ ints, 0 ≤ i ∧ i ≤ max) := by
  rcases perform_reached s ch ok c with ⟨e, hr, hp⟩ | ⟨r, l, hr, hp⟩
  · constructor
    · rintro ⟨-, hrange⟩
      rw [hp] at hrange
      refine ⟨fun ints h => ?_, fun max hmax ints hints => ?_⟩
      · rw [hr] at h
        cases h
      · rw [← hrange max hmax ints hints, hr]
        simp
    · rintro ⟨-, hrange⟩
      refine ⟨.inl ⟨e, hp⟩, fun max hmax ints hints => ?_⟩
      rw [← hrange max hmax ints hints, hp, hr]
      simp
  · constructor
    · rintro ⟨hexact, hrange⟩
      rw [hp] at hexact hrange
      refine ⟨fun ints h => ?_, fun max hmax ints hints => ?_⟩
      · rw [hr] at h
        cases h
        rcases hexact with ⟨e, he⟩ | ⟨r', ints', he, hkeeps⟩
        · cases he
        · cases he
          exact hkeeps
      · rw [← hrange max hmax ints hints, hr]
        simp
    · rintro ⟨hexact, hrange⟩
      refine ⟨.inr ⟨r, l, hp, hexact l hr⟩, fun max hmax ints hints => ?_⟩
      rw [← hrange max hmax ints hints, hp, hr]
      simp

end RadioCall

-- ---------------------------------------------------------------------------
-- Method by method
-- ---------------------------------------------------------------------------

section Methods

variable {n : UInt8} {ints : List Int}

/-- The integers of `Ant.assign_channel`: each is the conversion of its argument. -/
theorem reached_assignChannel {a : AssignArgs} :
    (RadioCall.assignChannel a).reached n = .ok ints ↔
      ∃ c t w x r, num2chr a.channel = .ok c ∧ num2chr a.channelType = .ok t ∧
        optionalChr a.networkNumber = .ok w ∧ optionalChr a.extendedOptions = .ok x ∧
        optionalChr a.timeout = .ok r ∧
        [(c.toNat : Int), (t.toNat : Int), (w.toNat : Int), (x.toNat : Int), (r.toNat : Int)] =
          ints := by
  simp only [RadioCall.reached, assignCall, bind, pure, Except.pure, Except.map_eq_ok_iff,
    Except.bind_eq_ok_iff, Except.ok.injEq]
  constructor
  · rintro ⟨_, ⟨c, hc, t, ht, w, hw, x, hx, r, hr, rfl⟩, rfl⟩
    exact ⟨c, t, w, x, r, hc, ht, hw, hx, hr, rfl⟩
  · rintro ⟨c, t, w, x, r, hc, ht, hw, hx, hr, rfl⟩
    exact ⟨_, ⟨c, hc, t, ht, w, hw, x, hx, r, hr, rfl⟩, rfl⟩

theorem reached_setChannelId {deviceNumber deviceType transmissionType timeout : Value} :
    (RadioCall.setChannelId deviceNumber deviceType transmissionType timeout).reached n =
        .ok ints ↔
      ∃ d t x r, num2ushort deviceNumber = .ok d ∧ num2chr deviceType = .ok t ∧
        num2chr transmissionType = .ok x ∧ optionalUint timeout = .ok r ∧
        [(d.toNat : Int), (t.toNat : Int), (x.toNat : Int), (r.toNat : Int)] = ints := by
  simp only [RadioCall.reached, channelIdCall, bind, pure, Except.pure, Except.map_eq_ok_iff,
    Except.bind_eq_ok_iff, Except.ok.injEq]
  constructor
  · rintro ⟨_, ⟨d, hd, t, ht, x, hx, r, hr, rfl⟩, rfl⟩
    exact ⟨d, t, x, r, hd, ht, hx, hr, rfl⟩
  · rintro ⟨d, t, x, r, hd, ht, hx, hr, rfl⟩
    exact ⟨_, ⟨d, hd, t, ht, x, hx, r, hr, rfl⟩, rfl⟩

/-- That of `set_channel_search_timeout`; the optional timeout has to convert
as well. -/
theorem reached_setChannelSearchTimeout {searchTimeout timeout : Value} :
    (RadioCall.setChannelSearchTimeout searchTimeout timeout).reached n = .ok ints ↔
      ∃ c r, num2chr searchTimeout = .ok c ∧ optionalUint timeout = .ok r ∧
        [(c.toNat : Int)] = ints := by
  simp only [RadioCall.reached, channelSearchTimeoutCall, bind, pure, Except.pure,
    Except.map_eq_ok_iff, Except.bind_eq_ok_iff, Except.ok.injEq]
  constructor
  · rintro ⟨_, ⟨c, hc, r, hr, rfl⟩, rfl⟩
    exact ⟨c, r, hc, hr, rfl⟩
  · rintro ⟨c, r, hc, hr, rfl⟩
    exact ⟨_, ⟨c, hc, r, hr, rfl⟩, rfl⟩

/-- A range check after a conversion. -/
theorem ite_error_eq_ok_iff {ε α : Type} {p : Prop} [Decidable p] {e : ε} {a b : α} :
    (if p then Except.error e else Except.ok a) = .ok b ↔ ¬ p ∧ a = b := by
  split <;> simp [*]

/-- That of `set_channel_rf_freq`: the check is on sixteen bits, the byte is
cut afterwards. -/
theorem reached_setChannelRfFreq {frequency : Value} :
    (RadioCall.setChannelRfFreq frequency).reached n = .ok ints ↔
      ∃ u, num2ushort frequency = .ok u ∧ u ≤ 124 ∧ [(u.toUInt8.toNat : Int)] = ints := by
  simp only [RadioCall.reached, channelRfFreqCall, bind, pure, Except.pure, Except.map_eq_ok_iff,
    Except.bind_eq_ok_iff, ite_error_eq_ok_iff, UInt16.not_lt]
  constructor
  · rintro ⟨_, ⟨u, hu, hle, rfl⟩, rfl⟩
    exact ⟨u, hu, hle, rfl⟩
  · rintro ⟨u, hu, hle, rfl⟩
    exact ⟨_, ⟨u, hu, hle, rfl⟩, rfl⟩

/-- Those of `set_frequency_agility`: each is cut to a byte before it is checked. -/
theorem reached_setFrequencyAgility {freq1 freq2 freq3 : Value} :
    (RadioCall.setFrequencyAgility freq1 freq2 freq3).reached n = .ok ints ↔
      ∃ f₁ f₂ f₃, (num2chr freq1 = .ok f₁ ∧ f₁ ≤ 124) ∧ (num2chr freq2 = .ok f₂ ∧ f₂ ≤ 124) ∧
        (num2chr freq3 = .ok f₃ ∧ f₃ ≤ 124) ∧
        [(f₁.toNat : Int), (f₂.toNat : Int), (f₃.toNat : Int)] = ints := by
  simp only [RadioCall.reached, frequencyAgilityCall, bind, pure, Except.pure,
    Except.map_eq_ok_iff, Except.bind_eq_ok_iff, ite_error_eq_ok_iff, not_or, UInt8.not_lt]
  constructor
  · rintro ⟨_, ⟨f₁, h₁, f₂, h₂, f₃, h₃, ⟨hle₁, hle₂, hle₃⟩, rfl⟩, rfl⟩
    exact ⟨f₁, f₂, f₃, ⟨h₁, hle₁⟩, ⟨h₂, hle₂⟩, ⟨h₃, hle₃⟩, rfl⟩
  · rintro ⟨f₁, f₂, f₃, ⟨h₁, hle₁⟩, ⟨h₂, hle₂⟩, ⟨h₃, hle₃⟩, rfl⟩
    exact ⟨_, ⟨f₁, h₁, f₂, h₂, f₃, h₃, ⟨hle₁, hle₂, hle₃⟩, rfl⟩, rfl⟩

theorem reached_transmitPower {power : Value} :
    (RadioCall.transmitPower power).reached n = .ok ints ↔
      ∃ c, num2chr power = .ok c ∧ c ≤ 4 ∧ [(c.toNat : Int)] = ints := by
  simp only [RadioCall.reached, transmitPowerCall, bind, pure, Except.pure, Except.map_eq_ok_iff,
    Except.bind_eq_ok_iff, ite_error_eq_ok_iff, UInt8.not_lt]
  constructor
  · rintro ⟨_, ⟨c, hc, hle, rfl⟩, rfl⟩
    exact ⟨c, hc, hle, rfl⟩
  · rintro ⟨c, hc, hle, rfl⟩
    exact ⟨_, ⟨c, hc, hle, rfl⟩, rfl⟩

/-- A byte that passes a check up to `max` is the Integer given exactly where
that passes. -/
theorem keeps_iff_within {v : Value} {c max : UInt8} (h : num2chr v = .ok c) (hle : c ≤ max) :
    Keeps v c.toNat ↔ Within max.toNat v := by
  have hmax : max.toNat < 256 := max.toNat_lt
  have hle' : c.toNat ≤ max.toNat := UInt8.le_iff_toNat_le.mp hle
  constructor
  · intro hkeeps i hi
    have := hkeeps i hi
    omega
  · intro hwithin
    refine (keeps_num2chr h).mpr fun i hi => ?_
    have := hwithin i hi
    omega

/-- An Integer in the range is accepted. -/
theorem num2chr_of_within {i : Int} (max : UInt8) (h : 0 ≤ i ∧ i ≤ max.toNat) :
    ∃ c, num2chr (.int i) = .ok c ∧ c ≤ max := by
  have hmax : max.toNat < 256 := max.toNat_lt
  have hlow : ((UInt8.ofInt i).toNat : Int) = i % 256 := ofInt8_eq_iff.mp rfl
  refine ⟨UInt8.ofInt i, num2chr_int_iff.mpr ⟨?_, hlow⟩, ?_⟩
  · omega
  · rw [UInt8.le_iff_toNat_le]
    omega

/-- `Ant.assign_channel` has no range check: every Integer must be a byte. -/
theorem noNarrowing_assignChannel (s : State) (ch : ChannelObject) (ok : Bool) (a : AssignArgs) :
    NoNarrowing (.assignChannel a) s ch ok ↔ Fits (.assignChannel a) := by
  rw [RadioCall.noNarrowing_iff_reached]
  simp only [reached_assignChannel, Fits, Except.isOk_iff]
  constructor
  · rintro ⟨hexact, -⟩ ⟨c, hc⟩ ⟨t, ht⟩ ⟨w, hw⟩ ⟨x, hx⟩ ⟨r, hr⟩
    have hkeeps := hexact _ ⟨c, t, w, x, r, hc, ht, hw, hx, hr, rfl⟩
    simpa [RadioCall.given, keeps_num2chr hc, keeps_num2chr ht, keeps_optionalChr hw,
      keeps_optionalChr hx, keeps_optionalChr hr] using hkeeps
  · intro hfits
    refine ⟨?_, fun max hmax => nomatch hmax⟩
    rintro ints ⟨c, t, w, x, r, hc, ht, hw, hx, hr, rfl⟩
    have hwithin := hfits ⟨c, hc⟩ ⟨t, ht⟩ ⟨w, hw⟩ ⟨x, hx⟩ ⟨r, hr⟩
    simpa [RadioCall.given, keeps_num2chr hc, keeps_num2chr ht, keeps_optionalChr hw,
      keeps_optionalChr hx, keeps_optionalChr hr] using hwithin

/-- `set_channel_id` has no range check, and its device number may have two bytes. -/
theorem noNarrowing_setChannelId (s : State) (ch : ChannelObject) (ok : Bool)
    (deviceNumber deviceType transmissionType timeout : Value) :
    NoNarrowing (.setChannelId deviceNumber deviceType transmissionType timeout) s ch ok ↔
      Fits (.setChannelId deviceNumber deviceType transmissionType timeout) := by
  rw [RadioCall.noNarrowing_iff_reached]
  simp only [reached_setChannelId, Fits, Except.isOk_iff]
  constructor
  · rintro ⟨hexact, -⟩ ⟨d, hd⟩ ⟨t, ht⟩ ⟨x, hx⟩ ⟨r, hr⟩
    have hkeeps := hexact _ ⟨d, t, x, r, hd, ht, hx, hr, rfl⟩
    simpa [RadioCall.given, keeps_num2ushort hd, keeps_num2chr ht, keeps_num2chr hx,
      keeps_optionalUint hr] using hkeeps
  · intro hfits
    refine ⟨?_, fun max hmax => nomatch hmax⟩
    rintro ints ⟨d, t, x, r, hd, ht, hx, hr, rfl⟩
    have hwithin := hfits ⟨d, hd⟩ ⟨t, ht⟩ ⟨x, hx⟩ ⟨r, hr⟩
    simpa [RadioCall.given, keeps_num2ushort hd, keeps_num2chr ht, keeps_num2chr hx,
      keeps_optionalUint hr] using hwithin

/-- `set_channel_search_timeout` has no range check. -/
theorem noNarrowing_setChannelSearchTimeout (s : State) (ch : ChannelObject) (ok : Bool)
    (searchTimeout timeout : Value) :
    NoNarrowing (.setChannelSearchTimeout searchTimeout timeout) s ch ok ↔
      Fits (.setChannelSearchTimeout searchTimeout timeout) := by
  rw [RadioCall.noNarrowing_iff_reached]
  simp only [reached_setChannelSearchTimeout, Fits, Except.isOk_iff]
  constructor
  · rintro ⟨hexact, -⟩ ⟨c, hc⟩ ⟨r, hr⟩
    have hkeeps := hexact _ ⟨c, r, hc, hr, rfl⟩
    simpa [RadioCall.given, keeps_num2chr hc] using hkeeps
  · intro hfits
    refine ⟨?_, fun max hmax => nomatch hmax⟩
    rintro ints ⟨c, r, hc, hr, rfl⟩
    simpa [RadioCall.given, keeps_num2chr hc] using hfits ⟨c, hc⟩ ⟨r, hr⟩

/-- The one range check that comes after a conversion that keeps negative
numbers out. -/
theorem num2ushort_le_iff {i : Int} :
    (∃ u, num2ushort (.int i) = .ok u ∧ u ≤ 124) ↔ 0 ≤ i ∧ i ≤ 124 := by
  have hmax : (124 : UInt16).toNat = 124 := rfl
  constructor
  · rintro ⟨u, hu, hle⟩
    have hlow := num2ushort_int_iff.mp hu
    rw [UInt16.le_iff_toNat_le] at hle
    omega
  · intro hi
    have hlow : ((UInt16.ofInt i).toNat : Int) = i % 65536 := ofInt16_eq_iff.mp rfl
    refine ⟨UInt16.ofInt i, num2ushort_int_iff.mpr ⟨?_, hlow⟩, ?_⟩
    · omega
    · rw [UInt16.le_iff_toNat_le]
      omega

/-- `set_channel_rf_freq` never narrows: it checks the unsigned short, and
cuts to a byte what is at most 124. A negative number has become a large one
by then. -/
theorem noNarrowing_setChannelRfFreq (s : State) (ch : ChannelObject) (ok : Bool)
    (frequency : Value) : NoNarrowing (.setChannelRfFreq frequency) s ch ok := by
  rw [RadioCall.noNarrowing_iff_reached]
  simp only [reached_setChannelRfFreq]
  constructor
  · rintro ints ⟨u, hu, hle, rfl⟩
    refine .cons (fun i hi => ?_) .nil
    subst hi
    have hrange := num2ushort_le_iff.mp ⟨u, hu, hle⟩
    have hkeeps := (keeps_num2ushort hu).mpr (fun j hj => by cases hj; omega) i rfl
    rw [UInt16.toNat_toUInt8]
    omega
  · intro max hmax ints hints
    cases hmax
    obtain ⟨i, rfl⟩ : ∃ i, ints = [i] := by
      match ints, hints with
      | [i], _ => exact ⟨i, rfl⟩
    cases hints
    rw [List.forall_mem_singleton, ← num2ushort_le_iff]
    constructor
    · rintro ⟨l, u, hu, hle, -⟩
      exact ⟨u, hu, hle⟩
    · rintro ⟨u, hu, hle⟩
      exact ⟨_, u, hu, hle, rfl⟩

/-- The check of `set_frequency_agility` comes too late: it sees the low byte
only, so that a frequency beyond 255 passes if its low byte does. An Integer
has to fit a byte for what arrives to be what was given. -/
theorem noNarrowing_setFrequencyAgility (s : State) (ch : ChannelObject) (ok : Bool)
    (freq1 freq2 freq3 : Value) :
    NoNarrowing (.setFrequencyAgility freq1 freq2 freq3) s ch ok ↔
      Fits (.setFrequencyAgility freq1 freq2 freq3) := by
  rw [RadioCall.noNarrowing_iff_reached]
  simp only [reached_setFrequencyAgility, Fits, List.forall_mem_cons, List.not_mem_nil,
    false_implies, implies_true, and_true]
  constructor
  · rintro ⟨hexact, -⟩ ⟨⟨f₁, h₁⟩, ⟨f₂, h₂⟩, f₃, h₃⟩
    have hkeeps := hexact _ ⟨f₁, f₂, f₃, h₁, h₂, h₃, rfl⟩
    simpa [RadioCall.given, keeps_iff_within h₁.1 h₁.2, keeps_iff_within h₂.1 h₂.2,
      keeps_iff_within h₃.1 h₃.2] using hkeeps
  · intro hfits
    constructor
    · rintro ints ⟨f₁, f₂, f₃, h₁, h₂, h₃, rfl⟩
      have hwithin := hfits ⟨⟨f₁, h₁⟩, ⟨f₂, h₂⟩, f₃, h₃⟩
      simpa [RadioCall.given, keeps_iff_within h₁.1 h₁.2, keeps_iff_within h₂.1 h₂.2,
        keeps_iff_within h₃.1 h₃.2] using hwithin
    · intro max hmax ints hints
      cases hmax
      obtain ⟨i, j, k, rfl⟩ : ∃ i j k, ints = [i, j, k] := by
        match ints, hints with
        | [i, j, k], _ => exact ⟨i, j, k, rfl⟩
      cases hints
      simp only [List.forall_mem_cons, List.not_mem_nil, false_implies, implies_true, and_true]
      constructor
      · rintro ⟨l, f₁, f₂, f₃, h₁, h₂, h₃, -⟩
        obtain ⟨hw₁, hw₂, hw₃⟩ := hfits ⟨⟨f₁, h₁⟩, ⟨f₂, h₂⟩, f₃, h₃⟩
        exact ⟨hw₁ i rfl, hw₂ j rfl, hw₃ k rfl⟩
      · rintro ⟨hi, hj, hk⟩
        obtain ⟨f₁, h₁⟩ := num2chr_of_within 124 hi
        obtain ⟨f₂, h₂⟩ := num2chr_of_within 124 hj
        obtain ⟨f₃, h₃⟩ := num2chr_of_within 124 hk
        exact ⟨_, f₁, f₂, f₃, h₁, h₂, h₃, rfl⟩

/-- The check of `Ant.transmit_power=` sees the low byte too. -/
theorem noNarrowing_transmitPower (s : State) (ch : ChannelObject) (ok : Bool) (power : Value) :
    NoNarrowing (.transmitPower power) s ch ok ↔ Fits (.transmitPower power) := by
  rw [RadioCall.noNarrowing_iff_reached]
  simp only [reached_transmitPower, Fits]
  constructor
  · rintro ⟨hexact, -⟩ ⟨c, hc, hle⟩
    have hkeeps := hexact _ ⟨c, hc, hle, rfl⟩
    simpa [RadioCall.given, keeps_iff_within hc hle] using hkeeps
  · intro hfits
    constructor
    · rintro ints ⟨c, hc, hle, rfl⟩
      simpa [RadioCall.given, keeps_iff_within hc hle] using hfits ⟨c, hc, hle⟩
    · intro max hmax ints hints
      cases hmax
      obtain ⟨i, rfl⟩ : ∃ i, ints = [i] := by
        match ints, hints with
        | [i], _ => exact ⟨i, rfl⟩
      cases hints
      rw [List.forall_mem_singleton]
      constructor
      · rintro ⟨l, c, hc, hle, -⟩
        exact hfits ⟨c, hc, hle⟩ i rfl
      · intro hi
        obtain ⟨c, hc, hle⟩ := num2chr_of_within 4 hi
        exact ⟨_, c, hc, hle, rfl⟩

end Methods

/-- **No silent narrowing.** For every method and all its arguments: it raises
before its library call or the library receives each Integer as it was given,
and Integers are accepted exactly in the documented range, if and only if an
argument does not convert or pass the range check, or each Integer fits. -/
theorem noNarrowing_iff (c : RadioCall) (s : State) (ch : ChannelObject) (ok : Bool) :
    NoNarrowing c s ch ok ↔ Fits c := by
  cases c with
  | assignChannel a => exact noNarrowing_assignChannel s ch ok a
  | setChannelId deviceNumber deviceType transmissionType timeout =>
    exact noNarrowing_setChannelId s ch ok deviceNumber deviceType transmissionType timeout
  | setChannelSearchTimeout searchTimeout timeout =>
    exact noNarrowing_setChannelSearchTimeout s ch ok searchTimeout timeout
  | setChannelRfFreq frequency =>
    exact iff_of_true (noNarrowing_setChannelRfFreq s ch ok frequency) trivial
  | setFrequencyAgility freq1 freq2 freq3 =>
    exact noNarrowing_setFrequencyAgility s ch ok freq1 freq2 freq3
  | transmitPower power => exact noNarrowing_transmitPower s ch ok power

/-- **Numbers narrowed on the way.** Power 259 is set as 3, though only 0 to 4
is documented; agility frequency 300 is set as 44; and channel -1 is assigned
as 255. -/
theorem narrowed :
    RadioCall.perform (.transmitPower (.int 259)) init rantChannelAlloc true = (.ok (), [[3]]) ∧
    RadioCall.perform (.setFrequencyAgility (.int 300) (.int 0) (.int 0)) init rantChannelAlloc
      true = (.ok (), [[44, 0, 0]]) ∧
    RadioCall.perform (.assignChannel ⟨.int (-1), .int 0, .nil, .nil, .nil⟩) init
      rantChannelAlloc true = (.ok (), [[255, 0, 0, 0, 0]]) ∧
    ¬ NoNarrowing (.transmitPower (.int 259)) init rantChannelAlloc true := by
  have hpower : RadioCall.perform (.transmitPower (.int 259)) init rantChannelAlloc true =
      (.ok (), [[3]]) := rfl
  refine ⟨hpower, rfl, rfl, fun h => ?_⟩
  -- the library is called, with a number outside the documented range
  have hin := (h.range 4 rfl [259] rfl).mp (by rw [hpower]; simp) 259 (List.mem_singleton.mpr rfl)
  omega

end AntWireless.Channel
