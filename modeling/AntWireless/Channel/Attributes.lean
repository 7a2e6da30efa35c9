import AntWireless.Channel.Settings

/-!
# AntWireless — the attributes of a channel and the library's answers

* `Recorded` — the attributes are the arguments of the last calls of a kind.
* `setterStep` — a channel under its setting methods.
* `attributes_follow_success` — in every run in which no unchecked library call fails, a
  failed call raises and changes nothing, and the attributes are those of the last success.
-/

namespace AntWireless.Channel

-- ---------------------------------------------------------------------------
-- Calls and their outcomes
-- ---------------------------------------------------------------------------

/-- A setting method is called; `ok` is whether its library call succeeds. -/
structure SetterCall where
  setter : Setter
  ok : Bool
  deriving DecidableEq, Repr

namespace SetterCall

/-- On the channel `n` the method gets to its library call, which fails. -/
def Failed (n : UInt8) (a : SetterCall) : Prop := (a.setter.call n).isOk = true ∧ a.ok = false

/-- The library call of the method is made, and succeeds. -/
def succeeded (n : UInt8) (a : SetterCall) : Bool := (a.setter.call n).isOk && a.ok

/-- The method records its arguments. -/
def records (n : UInt8) (a : SetterCall) : Bool :=
  (a.setter.call n).isOk && (a.ok || !a.setter.checksResult)

end SetterCall

/-- The channel after a call. -/
def setterStep (ch : ChannelObject) (a : SetterCall) : Option ChannelObject :=
  some (a.setter.perform ch a.ok).channel

/-- A call whose library call fails raises, and leaves the channel as it was. -/
def FailsCleanly (ch : ChannelObject) (a : SetterCall) : Prop :=
  a.Failed ch.channelNum →
    (∃ e, (a.setter.perform ch a.ok).value = .error e) ∧ (a.setter.perform ch a.ok).channel = ch

/-- No library call fails whose result the method does not look at. -/
def Heeded (ch : ChannelObject) (a : SetterCall) : Prop :=
  a.Failed ch.channelNum → a.setter.checksResult = true

instance (ch : ChannelObject) (a : SetterCall) : Decidable (Heeded ch a) :=
  inferInstanceAs (Decidable (_ ∧ _ → _))

/-- All that a call does to the channel: it writes the attributes of its
method, or nothing. It writes them where the arguments convert and the library
call succeeds, or is not looked at. -/
theorem channel_perform (ch : ChannelObject) (a : SetterCall) :
    (a.setter.perform ch a.ok).channel =
      if a.records ch.channelNum = true then { ch with ivars := a.setter.record ch.ivars }
      else ch := by
  unfold SetterCall.records
  cases hc : a.setter.call ch.channelNum with
  | error e =>
    rw [Setter.perform_rejected hc]
    rfl
  | ok c =>
    cases hchecks : a.setter.checksResult with
    | false =>
      rw [Setter.perform_recorded hc (.inr hchecks)]
      simp [Except.isOk, Except.toBool]
    | true =>
      cases hok : a.ok with
      | false =>
        rw [Setter.perform_failed hc hchecks]
        simp
      | true =>
        rw [Setter.perform_recorded hc (.inl rfl)]
        simp [Except.isOk, Except.toBool]

/-- A failed call is clean exactly when the method looks at the result: one
that does not records what the radio has refused. -/
theorem failsCleanly_iff_heeded (ch : ChannelObject) (a : SetterCall) :
    FailsCleanly ch a ↔ Heeded ch a := by
  refine forall_congr' fun hfailed => ?_
  obtain ⟨hreach, hok⟩ := hfailed
  cases hc : a.setter.call ch.channelNum with
  | error e =>
    rw [hc] at hreach
    cases hreach
  | ok c =>
    cases hchecks : a.setter.checksResult with
    | false =>
      rw [Setter.perform_recorded hc (.inr hchecks)]
      simp
    | true =>
      rw [hok, Setter.perform_failed hc hchecks]
      simp

-- ---------------------------------------------------------------------------
-- The last calls of a kind
-- ---------------------------------------------------------------------------

namespace Setter

/-- The arguments of `set_channel_id` that it records. -/
def idArgs : Setter → Option (Value × Value × Value)
  | .channelId deviceNumber deviceType transmissionType _ =>
    some (deviceNumber, deviceType, transmissionType)
  | _ => none

def frequencyArg : Setter → Option Value
  | .channelRfFreq frequency => some frequency
  | _ => none

def agilityArgs : Setter → Option (List Value)
  | .frequencyAgility freq1 freq2 freq3 => some [freq1, freq2, freq3]
  | _ => none

end Setter

/-- What `f` finds in the last call that `counts` and has it. -/
def lastArgs {β : Type} (counts : SetterCall → Bool) (f : Setter → Option β)
    (as : List SetterCall) : Option β :=
  (as.filterMap fun a => if counts a = true then f a.setter else none).getLast?

/-- The last call comes first: what it has is found, or what was found before it. -/
theorem lastArgs_concat {β : Type} (counts : SetterCall → Bool) (f : Setter → Option β)
    (as : List SetterCall) (a : SetterCall) :
    lastArgs counts f (as ++ [a]) =
      (if counts a = true then f a.setter else none).or (lastArgs counts f as) := by
  unfold lastArgs
  rw [List.filterMap_append]
  cases h : if counts a = true then f a.setter else none with
  | none => simp [h]
  | some x => simp [h]

theorem exists_of_lastArgs {β : Type} {counts : SetterCall → Bool} {f : Setter → Option β}
    {as : List SetterCall} {x : β} (h : lastArgs counts f as = some x) :
    ∃ a ∈ as, counts a = true ∧ f a.setter = some x := by
  obtain ⟨a, ha, hf⟩ := List.mem_filterMap.mp (List.mem_of_getLast? h)
  split at hf
  · exact ⟨a, ha, by assumption, hf⟩
  · cases hf

/-- The attributes are the arguments of the last calls that count, or nil. -/
structure Recorded (counts : SetterCall → Bool) (as : List SetterCall) (ivars : ChannelIvars) :
    Prop where
  channelId : (ivars.deviceNumber, ivars.deviceType, ivars.transmissionType) =
    (lastArgs counts Setter.idArgs as).getD (.nil, .nil, .nil)
  rfFrequency : ivars.rfFrequency = (lastArgs counts Setter.frequencyArg as).getD .nil
  agilityFrequencies : ivars.agilityFrequencies = lastArgs counts Setter.agilityArgs as

theorem recorded_initialized (counts : SetterCall → Bool) (a : AssignArgs) (u : UInt16) :
    Recorded counts [] (initialized a u).ivars where
  channelId := rfl
  rfFrequency := rfl
  agilityFrequencies := rfl

/-- **Step.** Each attribute is written by one kind of call only, which writes
it whenever it counts; so the last such call is what the attribute shows. The
cases are the five settings, of which two have no attribute. -/
theorem recorded_step {counts : SetterCall → Bool} {as : List SetterCall} {ch : ChannelObject}
    {a : SetterCall} (h : Recorded counts as ch.ivars)
    (hcounts : counts a = a.records ch.channelNum) :
    Recorded counts (as ++ [a]) (a.setter.perform ch a.ok).channel.ivars := by
  rw [channel_perform, ← hcounts]
  cases hc : counts a with
  | false =>
    have hskip : ∀ {β : Type} (f : Setter → Option β),
        lastArgs counts f (as ++ [a]) = lastArgs counts f as := by
      intro β f
      rw [lastArgs_concat, hc]
      rfl
    exact ⟨by rw [hskip]; exact h.channelId, by rw [hskip]; exact h.rfFrequency,
      by rw [hskip]; exact h.agilityFrequencies⟩
  | true =>
    have hnew : ∀ {β : Type} (f : Setter → Option β),
        lastArgs counts f (as ++ [a]) = (f a.setter).or (lastArgs counts f as) := by
      intro β f
      rw [lastArgs_concat, hc]
      rfl
    rw [if_pos rfl]
    -- each method records one of the three, or none
    obtain ⟨p, ok⟩ := a
    cases p with
    | channelId | channelPeriod | channelSearchTimeout | channelRfFreq | frequencyAgility =>
      constructor
      · rw [hnew]
        first | rfl | exact h.channelId
      · rw [hnew]
        first | rfl | exact h.rfFrequency
      · rw [hnew]
        first | rfl | exact h.agilityFrequencies

-- ---------------------------------------------------------------------------
-- Runs
-- ---------------------------------------------------------------------------

theorem channelNum_perform (ch : ChannelObject) (a : SetterCall) :
    (a.setter.perform ch a.ok).channel.channelNum = ch.channelNum := by
  rw [channel_perform]
  split <;> rfl

/-- Where no unchecked library call fails, a method records exactly what succeeds. -/
theorem Heeded.succeeded_eq_records {ch : ChannelObject} {a : SetterCall} (h : Heeded ch a) :
    a.succeeded ch.channelNum = a.records ch.channelNum := by
  unfold SetterCall.succeeded SetterCall.records
  cases hreach : (a.setter.call ch.channelNum).isOk with
  | false => rfl
  | true =>
    cases hok : a.ok with
    | true => rfl
    | false => simp [h ⟨hreach, hok⟩]

/-- An argument that `set_channel_id` records is not nil. -/
theorem ne_nil_of_channelIdCall {n : UInt8} {deviceNumber deviceType transmissionType t : Value}
    (h : (channelIdCall n deviceNumber deviceType transmissionType t).isOk = true) :
    deviceNumber ≠ .nil ∧ deviceType ≠ .nil ∧ transmissionType ≠ .nil := by
  obtain ⟨d, t', x, hd, ht, hx⟩ := channelIdCall_isOk h
  refine ⟨?_, ?_, ?_⟩
  · rintro rfl
    cases hd
  · rintro rfl
    cases ht
  · rintro rfl
    cases hx

/-- **Run.** The number is the one that was assigned, and the attributes are
those of the last calls that succeeded. -/
theorem recorded_exec {a : AssignArgs} {u : UInt16} {as : List SetterCall} {ch : ChannelObject}
    (hrun : Lts.Exec setterStep Heeded (initialized a u) as ch) :
    ch.channelNum = u.toUInt8 ∧ Recorded (SetterCall.succeeded u.toUInt8) as ch.ivars := by
  induction hrun with
  | nil => exact ⟨rfl, recorded_initialized _ a u⟩
  | @snoc as ch ch' b hrun hg hs ih =>
    obtain ⟨hnum, hrec⟩ := ih
    obtain rfl := Option.some.inj hs
    refine ⟨(channelNum_perform ch b).trans hnum, recorded_step hrec ?_⟩
    rw [← hnum]
    exact hg.succeeded_eq_records

/-- **Attributes.** In every run on a newly assigned channel in which no
library call fails that its method does not check: the attributes are the
arguments of the last successful calls, or nil; those of the channel id are
nil together or set together; and the next call is clean if it fails exactly
when the condition holds of it as well. -/
theorem attributes_follow_success {a : AssignArgs} {u : UInt16} {as : List SetterCall}
    {ch : ChannelObject} (hrun : Lts.Exec setterStep Heeded (initialized a u) as ch) :
    Recorded (SetterCall.succeeded u.toUInt8) as ch.ivars ∧
    (ch.ivars.deviceNumber = .nil ∧ ch.ivars.deviceType = .nil ∧
        ch.ivars.transmissionType = .nil ∨
      ch.ivars.deviceNumber ≠ .nil ∧ ch.ivars.deviceType ≠ .nil ∧
        ch.ivars.transmissionType ≠ .nil) ∧
    ∀ next, FailsCleanly ch next ↔ Heeded ch next := by
  obtain ⟨-, hrec⟩ := recorded_exec hrun
  refine ⟨hrec, ?_, failsCleanly_iff_heeded ch⟩
  have hid := hrec.channelId
  cases hlast : lastArgs (SetterCall.succeeded u.toUInt8) Setter.idArgs as with
  | none =>
    rw [hlast] at hid
    simp only [Option.getD_none, Prod.mk.injEq] at hid
    exact .inl hid
  | some x =>
    rw [hlast] at hid
    obtain ⟨⟨p, ok⟩, -, hsucc, hargs⟩ := exists_of_lastArgs hlast
    cases p with
    | channelId deviceNumber deviceType transmissionType t =>
      cases hargs
      simp only [Option.getD_some, Prod.mk.injEq] at hid
      obtain ⟨hdn, hdt, htt⟩ := hid
      rw [hdn, hdt, htt]
      exact .inr (ne_nil_of_channelIdCall (Bool.and_eq_true_iff.mp hsucc).1)
    | _ => cases hargs

/-- A channel whose second `set_channel_id` fails. -/
def failedIdCalls : List SetterCall :=
  [⟨.channelId (.int 4660) (.int 1) (.int 5) .nil, true⟩,
    ⟨.channelId (.int 7) (.int 2) (.int 1) (.int 10), false⟩, ⟨.channelRfFreq (.int 57), true⟩]

/-- A second `set_channel_id` fails, and the channel keeps the id of the first. -/
theorem attributes_follow_success_failedIdCalls : ∃ ch,
    Lts.Exec setterStep Heeded (initialized ⟨.int 0, .int 0, .nil, .nil, .nil⟩ 0)
      failedIdCalls ch ∧
    ch.ivars.deviceNumber = .int 4660 ∧ ch.ivars.rfFrequency = .int 57 ∧
    FailsCleanly ch ⟨.channelId (.int 7) (.int 2) (.int 1) .nil, false⟩ := by
  have hrun : (Lts.runIf setterStep (fun ch a => decide (Heeded ch a))
      (initialized ⟨.int 0, .int 0, .nil, .nil, .nil⟩ 0) failedIdCalls).isSome = true := by
    decide +kernel
  obtain ⟨ch, hs⟩ := Option.isSome_iff_exists.mp hrun
  have hexec := Lts.exec_of_runIf (G := Heeded) (fun _ _ h => of_decide_eq_true h) hs
  obtain ⟨hrec, -, hclean⟩ := attributes_follow_success hexec
  exact ⟨ch, hexec, congrArg Prod.fst hrec.channelId, hrec.rfFrequency,
    (hclean _).mpr fun _ => rfl⟩

/-- **A failure nobody looks at.** The library refuses the frequency; the
method returns true and the channel reports a frequency that the radio does
not have. -/
theorem ignoredFailure_recorded :
    let ch := initialized ⟨.int 0, .int 0, .nil, .nil, .nil⟩ 0
    let a : SetterCall := ⟨.channelRfFreq (.int 57), false⟩
    a.setter.call ch.channelNum = .ok (.setChannelRFFreq 0 57) ∧ a.Failed ch.channelNum ∧
    (a.setter.perform ch a.ok).value = .ok .true ∧
    (a.setter.perform ch a.ok).channel.ivars.rfFrequency = .int 57 ∧
    ¬ FailsCleanly ch a := by
  refine ⟨rfl, ⟨rfl, rfl⟩, rfl, rfl, fun hclean => ?_⟩
  obtain ⟨⟨e, he⟩, -⟩ := hclean ⟨rfl, rfl⟩
  cases he

end AntWireless.Channel
