import AntWireless.Channel.Narrowing
import AntWireless.Ruby.Format

/-!
# AntWireless — the validators of `Ant`

`Ant.validate_device_number` and its siblings convert their argument with `Integer( )`, and
raise a RangeError that says between which bounds the number should have been. The bounds are
those of a Range that does not have its end.

* `Validator`, `Validator.validate` — the four of them, each under its own name too.
* `Agrees` — a validator accepts an Integer exactly between the bounds it announces; and that
  of the RF frequency exactly where the setters do.
* `agrees_iff` — for which Integers that is so.
-/

namespace AntWireless

open Channel

-- ---------------------------------------------------------------------------
-- The validators
-- ---------------------------------------------------------------------------

/-- The exception of a validator: of its conversion, or a RangeError. -/
inductive ValidationError
  | conversion (e : RubyError)
  | rangeError (msg : String)
  deriving DecidableEq, Repr

/-- `( first...last )`: `begin` and `end`, which it does not include. -/
structure ExclusiveRange where
  first : Int
  last : Int
  deriving DecidableEq, Repr

/-- `Range#include?`. -/
def ExclusiveRange.includes (r : ExclusiveRange) (n : Int) : Bool := r.first ≤ n ∧ n < r.last

/-- `VALID_DEVICE_NUMBERS`. -/
def validDeviceNumbers : ExclusiveRange := ⟨0, 65535⟩

/-- `VALID_DEVICE_TYPES`. -/
def validDeviceTypes : ExclusiveRange := ⟨0, 127⟩

/-- `VALID_CHANNEL_PERIODS`. -/
def validChannelPeriods : ExclusiveRange := ⟨0, 65535⟩

/-- `VALID_RF_FREQUENCIES`. -/
def validRfFrequencies : ExclusiveRange := ⟨0, 124⟩

/-- The text of a RangeError: what is wrong, the two bounds, and the number. -/
def rangeMessage (wrong : String) (first last n : Int) : String :=
  wrong ++ " between " ++ toString first ++ " and " ++ toString last ++ ", got " ++ toString n

/-- A validator with a Range. -/
def validateIn (r : ExclusiveRange) (wrong : String) (number : Value) :
    Except ValidationError Int :=
  match number.integer with
  | .error e => .error (.conversion e)
  | .ok number =>
    if r.includes number then .ok number
    else .error (.rangeError (rangeMessage wrong r.first r.last number))

def validateDeviceNumber : Value → Except ValidationError Int :=
  validateIn validDeviceNumbers "invalid device number; expected a number"

def validateDeviceType : Value → Except ValidationError Int :=
  validateIn validDeviceTypes "invalid device type; expected a number"

def validateChannelPeriod : Value → Except ValidationError Int :=
  validateIn validChannelPeriods "invalid channel period; expected a frequency"

def validateRfFrequency : Value → Except ValidationError Int :=
  validateIn validRfFrequencies "invalid RF Frequency; expected a offset"

/-- `validate_network_number`: the only one with both bounds included, and
without them in its text. -/
def validateNetworkNumber (number : Value) : Except ValidationError Int :=
  match number.integer with
  | .error e => .error (.conversion e)
  | .ok number =>
    if number ≥ 0 ∧ number ≤ 255 then .ok number
    else .error (.rangeError ("invalid network number; expected an eight-bit number, got " ++
      toString number))

/-- The validators that announce their bounds. -/
inductive Validator
  | deviceNumber
  | deviceType
  | channelPeriod
  | rfFrequency
  deriving DecidableEq, Repr

namespace Validator

def validate : Validator → Value → Except ValidationError Int
  | .deviceNumber => validateDeviceNumber
  | .deviceType => validateDeviceType
  | .channelPeriod => validateChannelPeriod
  | .rfFrequency => validateRfFrequency

/-- What the text of the error begins with. -/
def wrong : Validator → String
  | .deviceNumber => "invalid device number; expected a number"
  | .deviceType => "invalid device type; expected a number"
  | .channelPeriod => "invalid channel period; expected a frequency"
  | .rfFrequency => "invalid RF Frequency; expected a offset"

/-- The bounds that the text announces. -/
def announced : Validator → Int × Int
  | .deviceNumber => (0, 65535)
  | .deviceType => (0, 127)
  | .channelPeriod => (0, 65535)
  | .rfFrequency => (0, 124)

end Validator

-- ---------------------------------------------------------------------------
-- Agreement
-- ---------------------------------------------------------------------------

/-- The validator returns an Integer between the bounds that its error
announces, both included, and raises that error for any other. -/
def AsAnnounced (v : Validator) (n : Int) : Prop :=
  v.validate (.int n) =
    if v.announced.1 ≤ n ∧ n ≤ v.announced.2 then .ok n
    else .error (.rangeError (rangeMessage v.wrong v.announced.1 v.announced.2 n))

/-- The setters of frequencies accept an Integer exactly where its validator
does. The other two frequencies of `set_frequency_agility` are in the
range. -/
structure SettersAgree (n : Int) : Prop where
  rfFreq : ∀ ch ok, (rantChannelSetChannelRfFreq ch (.int n) ok).value.isOk =
    (validateRfFrequency (.int n)).isOk
  agility : ∀ ch ok (f g : Int), 0 ≤ f ∧ f ≤ 124 → 0 ≤ g ∧ g ≤ 124 →
    ∀ fs ∈ [(n, f, g), (f, n, g), (f, g, n)],
      (rantChannelSetFrequencyAgility ch (.int fs.1) (.int fs.2.1) (.int fs.2.2) ok).value.isOk =
        (validateRfFrequency (.int n)).isOk

/-- The validator does what it says, and what the setters do. -/
structure Agrees (v : Validator) (n : Int) : Prop where
  announced : AsAnnounced v n
  setters : v = .rfFrequency → SettersAgree n

/-- A C `int` outside the range of frequencies, whose low byte is inside. -/
def WrapsToFrequency (n : Int) : Prop :=
  (-2147483648 ≤ n ∧ n ≤ 2147483647) ∧ ¬ (0 ≤ n ∧ n ≤ 124) ∧ n % 256 ≤ 124

/-- The four validators are one, with the announced bounds as those of its Range. -/
theorem validate_int (v : Validator) (n : Int) :
    v.validate (.int n) =
      if v.announced.1 ≤ n ∧ n < v.announced.2 then .ok n
      else .error (.rangeError (rangeMessage v.wrong v.announced.1 v.announced.2 n)) := by
  have hin : ∀ (r : ExclusiveRange) (wrong : String), validateIn r wrong (.int n) =
      if r.first ≤ n ∧ n < r.last then .ok n
      else .error (.rangeError (rangeMessage wrong r.first r.last n)) := by
    intro r wrong
    show (if r.includes n = true then _ else _) = _
    simp only [ExclusiveRange.includes, decide_eq_true_eq]
  cases v <;> exact hin _ _

/-- A validator is wrong about one Integer: the upper bound, which its text
announces and its Range excludes. -/
theorem asAnnounced_iff (v : Validator) (n : Int) : AsAnnounced v n ↔ n ≠ v.announced.2 := by
  have hbounds : v.announced.1 < v.announced.2 := by cases v <;> decide
  rw [AsAnnounced, validate_int]
  by_cases hlast : n = v.announced.2
  · have hout : ¬ (v.announced.1 ≤ n ∧ n < v.announced.2) := by omega
    have hin : v.announced.1 ≤ n ∧ n ≤ v.announced.2 := by omega
    rw [if_neg hout, if_pos hin]
    simp [hlast]
  · have hsame : (v.announced.1 ≤ n ∧ n < v.announced.2) ↔
        v.announced.1 ≤ n ∧ n ≤ v.announced.2 := by omega
    simp [hsame, hlast]

-- ---------------------------------------------------------------------------
-- What the setters accept
-- ---------------------------------------------------------------------------

theorem validateRfFrequency_isOk_iff (n : Int) :
    (validateRfFrequency (.int n)).isOk = true ↔ 0 ≤ n ∧ n < 124 := by
  have hval : validateRfFrequency (.int n) = _ := validate_int .rfFrequency n
  rw [hval]
  show (if (0 : Int) ≤ n ∧ n < 124 then _ else _ : Except ValidationError Int).isOk = true ↔ _
  split <;> simp [Except.isOk, Except.toBool, *]

/-- A method that does not look at the result accepts what gets to its library call. -/
theorem uncheckedSetting_isOk (ch : ChannelObject) (call : Except RubyError SettingCall)
    (ivars : ChannelIvars) : (uncheckedSetting ch call ivars).value.isOk = call.isOk := by
  cases call <;> rfl

theorem setChannelRfFreq_isOk_iff (ch : ChannelObject) (n : Int) (ok : Bool) :
    (rantChannelSetChannelRfFreq ch (.int n) ok).value.isOk = true ↔ 0 ≤ n ∧ n ≤ 124 := by
  rw [rantChannelSetChannelRfFreq, uncheckedSetting_isOk, ← num2ushort_le_iff, Except.isOk_iff]
  simp only [channelRfFreqCall, bind, pure, Except.pure, Except.bind_eq_ok_iff,
    ite_error_eq_ok_iff, UInt16.not_lt]
  constructor
  · rintro ⟨c, u, hu, hle, -⟩
    exact ⟨u, hu, hle⟩
  · rintro ⟨u, hu, hle⟩
    exact ⟨_, u, hu, hle, rfl⟩

/-- The low byte of an Integer passes the check, whatever the bits above it are. -/
theorem num2chr_le_iff {n : Int} : (∃ c, num2chr (.int n) = .ok c ∧ c ≤ 124) ↔
    (-2147483648 ≤ n ∧ n ≤ 2147483647) ∧ n % 256 ≤ 124 := by
  have hmax : (124 : UInt8).toNat = 124 := rfl
  constructor
  · rintro ⟨c, hc, hle⟩
    have hlow := num2chr_int_iff.mp hc
    rw [UInt8.le_iff_toNat_le] at hle
    omega
  · intro hn
    have hlow : ((UInt8.ofInt n).toNat : Int) = n % 256 := ofInt8_eq_iff.mp rfl
    refine ⟨UInt8.ofInt n, num2chr_int_iff.mpr ⟨hn.1, hlow⟩, ?_⟩
    rw [UInt8.le_iff_toNat_le]
    omega

/-- What `set_frequency_agility` accepts: three Integers whose low bytes pass. -/
theorem setFrequencyAgility_isOk_iff (ch : ChannelObject) (f g h : Int) (ok : Bool) :
    (rantChannelSetFrequencyAgility ch (.int f) (.int g) (.int h) ok).value.isOk = true ↔
      ∀ n ∈ [f, g, h], (-2147483648 ≤ n ∧ n ≤ 2147483647) ∧ n % 256 ≤ 124 := by
  rw [rantChannelSetFrequencyAgility, uncheckedSetting_isOk, Except.isOk_iff]
  simp only [List.forall_mem_cons, List.not_mem_nil, false_implies, implies_true, and_true,
    ← num2chr_le_iff]
  simp only [frequencyAgilityCall, bind, pure, Except.pure, Except.bind_eq_ok_iff,
    ite_error_eq_ok_iff, not_or, UInt8.not_lt]
  constructor
  · rintro ⟨c, f₁, h₁, f₂, h₂, f₃, h₃, ⟨hle₁, hle₂, hle₃⟩, -⟩
    exact ⟨⟨f₁, h₁, hle₁⟩, ⟨f₂, h₂, hle₂⟩, f₃, h₃, hle₃⟩
  · rintro ⟨⟨f₁, h₁, hle₁⟩, ⟨f₂, h₂, hle₂⟩, f₃, h₃, hle₃⟩
    exact ⟨_, f₁, h₁, f₂, h₂, f₃, h₃, ⟨hle₁, hle₂, hle₃⟩, rfl⟩

/-- The setters and the validator differ at 124, which the Range excludes, and
at what one setter cuts to a byte that passes its check. -/
theorem settersAgree_iff (n : Int) : SettersAgree n ↔ n ≠ 124 ∧ ¬ WrapsToFrequency n := by
  have hvalidate := validateRfFrequency_isOk_iff n
  unfold WrapsToFrequency
  constructor
  · rintro ⟨hfreq, hagility⟩
    have hset := hfreq rantChannelAlloc true
    have hset' := hagility rantChannelAlloc true 0 0 (by decide) (by decide) (n, 0, 0) (by simp)
    rw [Bool.eq_iff_iff, setChannelRfFreq_isOk_iff, hvalidate] at hset
    rw [Bool.eq_iff_iff, setFrequencyAgility_isOk_iff, hvalidate] at hset'
    simp only [List.forall_mem_cons, List.not_mem_nil, false_implies, implies_true, and_true]
      at hset'
    omega
  · rintro ⟨hne, hwraps⟩
    refine ⟨fun ch ok => ?_, fun ch ok f g hf hg fs hfs => ?_⟩
    · rw [Bool.eq_iff_iff, setChannelRfFreq_isOk_iff, hvalidate]
      omega
    · rw [Bool.eq_iff_iff, setFrequencyAgility_isOk_iff, hvalidate]
      simp only [List.mem_cons, List.not_mem_nil, or_false] at hfs
      rcases hfs with rfl | rfl | rfl
      all_goals
        simp only [List.forall_mem_cons, List.not_mem_nil, false_implies, implies_true, and_true]
        omega

/-- **Validators.** For every Integer: a validator accepts it exactly between
the bounds that its error announces, and that of the RF frequency exactly
where the setters do, if and only if the Integer is not the upper bound; nor,
for the RF frequency, one outside the range that the setter of the three
frequencies cuts to a byte inside. -/
theorem agrees_iff (v : Validator) (n : Int) :
    Agrees v n ↔ n ≠ v.announced.2 ∧ (v = .rfFrequency → ¬ WrapsToFrequency n) := by
  constructor
  · rintro ⟨hannounced, hsetters⟩
    exact ⟨(asAnnounced_iff v n).mp hannounced,
      fun hv => ((settersAgree_iff n).mp (hsetters hv)).2⟩
  · rintro ⟨hne, hwraps⟩
    refine ⟨(asAnnounced_iff v n).mpr hne, ?_⟩
    rintro rfl
    exact (settersAgree_iff n).mpr ⟨hne, hwraps rfl⟩

/-- **The upper bound.** 124 is rejected with a text that says 124 is in the
range, and is set by both setters; 300 is rejected, and is one of the
frequencies that are set. -/
theorem upperBound_rejected :
    validateRfFrequency (.int 124) = .error (.rangeError
      "invalid RF Frequency; expected a offset between 0 and 124, got 124") ∧
    (rantChannelSetChannelRfFreq rantChannelAlloc (.int 124) true).value = .ok .true ∧
    (validateRfFrequency (.int 300)).isOk = false ∧
    (rantChannelSetFrequencyAgility rantChannelAlloc (.int 300) (.int 0) (.int 0) true).value =
      .ok .true ∧
    ¬ Agrees .rfFrequency 124 := by
  refine ⟨by decide, by decide, by decide, by decide, fun hagrees => ?_⟩
  exact (asAnnounced_iff .rfFrequency 124).mp hagrees.announced rfl

end AntWireless
