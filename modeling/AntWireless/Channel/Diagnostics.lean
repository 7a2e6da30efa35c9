import AntWireless.Channel.Assignment
import AntWireless.Channel.Attributes
import AntWireless.Response.Handlers

/-!
# AntWireless — describing a channel after any configuration

`inspect` needs a frequency, a network number and, once a channel id is set, a device type
that is an Integer. A new channel has no frequency, and no network number if that argument
was omitted.

* `configStep` — the operations on channels, their settings among them.
* `Diagnosable` — the channel has a description, and the handlers that describe it get past it.
* `diagnostics_iff` — which calls a channel must have had for that.
-/

namespace AntWireless.Channel

-- ---------------------------------------------------------------------------
-- Operations and settings
-- ---------------------------------------------------------------------------

/-- An operation, or a setting method on the object `o`. -/
inductive ConfigAction
  | ruby (a : Action)
  | set (o : ObjId) (c : SetterCall)
  deriving DecidableEq, Repr

def configStep (s : State) : ConfigAction → Option State
  | .ruby a => step s a
  | .set o c => (s.objects o).map fun ch => s.setObject o (c.setter.perform ch c.ok).channel

/-- The setting of an action, if it is on the object `o`. -/
def ConfigAction.settingOn (o : ObjId) : ConfigAction → Option SetterCall
  | .ruby _ => none
  | .set p c => if p = o then some c else none

/-- The settings on the object `o`, in their order. -/
def settingsOn (o : ObjId) (as : List ConfigAction) : List SetterCall :=
  as.filterMap (ConfigAction.settingOn o)

theorem settingsOn_concat (o : ObjId) (as : List ConfigAction) (a : ConfigAction) :
    settingsOn o (as ++ [a]) = settingsOn o as ++ (a.settingOn o).toList := by
  unfold settingsOn
  rw [List.filterMap_append]
  cases h : a.settingOn o <;> simp [h]

/-- What an object has, from the arguments of its assignment and its settings since. -/
structure Configured (a : AssignArgs) (u : UInt16) (calls : List SetterCall)
    (ch : ChannelObject) : Prop where
  number : ch.channelNum = u.toUInt8
  channelType : ch.ivars.channelType = a.channelType
  network : ch.ivars.networkNumber = a.networkNumber
  recorded : Recorded (SetterCall.records u.toUInt8) calls ch.ivars

/-- A setting on the object records what it records, and nothing else of the
assignment changes. -/
theorem configured_set {a : AssignArgs} {u : UInt16} {calls : List SetterCall}
    {ch : ChannelObject} (h : Configured a u calls ch) (c : SetterCall) :
    Configured a u (calls ++ [c]) (c.setter.perform ch c.ok).channel := by
  have hkept : (c.setter.perform ch c.ok).channel.ivars.channelType = ch.ivars.channelType ∧
      (c.setter.perform ch c.ok).channel.ivars.networkNumber = ch.ivars.networkNumber := by
    rw [channel_perform]
    split
    · cases c.setter <;> exact ⟨rfl, rfl⟩
    · exact ⟨rfl, rfl⟩
  refine ⟨(channelNum_perform ch c).trans h.number, hkept.1.trans h.channelType,
    hkept.2.trans h.network, recorded_step h.recorded ?_⟩
  rw [h.number]

/-- **Step.** An operation leaves the attributes of an old object as they are;
a setting writes those of its own object only. A run may create and close
other channels all along. -/
theorem configured_step {args : AssignArgs} {u : UInt16} {as : List ConfigAction} {o : ObjId}
    {s s' : State} {a : ConfigAction} (hold : o < s.nextId)
    (h : ∀ ch, s.objects o = some ch → Configured args u (settingsOn o as) ch)
    (hs : configStep s a = some s') :
    o < s'.nextId ∧
    ∀ ch, s'.objects o = some ch → Configured args u (settingsOn o (as ++ [a])) ch := by
  rw [settingsOn_concat]
  cases a with
  | ruby a =>
    have hch := change_of_step hs
    refine ⟨Nat.lt_of_lt_of_le hold hch.nextId_le, fun ch' ho => ?_⟩
    rw [ConfigAction.settingOn, Option.toList_none, List.append_nil]
    rcases hch.object_old ho with ⟨ch, ho, hnum, -, hivars, -⟩ | ⟨rfl, -⟩
    · obtain ⟨hnumber, htype, hnetwork, hrec⟩ := h ch ho
      exact ⟨hnum.trans hnumber, by rw [hivars, htype], by rw [hivars, hnetwork], hivars ▸ hrec⟩
    · exact absurd hold (Nat.lt_irrefl _)
  | set p c =>
    obtain ⟨ch, hp, rfl⟩ := Option.map_eq_some_iff.mp hs
    refine ⟨hold, fun ch' ho => ?_⟩
    rw [ConfigAction.settingOn]
    rcases update_cases ho with ⟨rfl, hch'⟩ | ⟨hne, ho⟩
    · rw [Option.some.injEq] at hch'
      rw [if_pos rfl, ← hch']
      exact configured_set (h ch hp) c
    · rw [if_neg (Ne.symm hne), Option.toList_none, List.append_nil]
      exact h ch' ho

/-- **Run.** What an object has, from the call that returned it on. -/
theorem configured_exec {args : AssignArgs} {o : ObjId} {s₀ s : State} {as : List ConfigAction}
    {ok : Bool} (hassign : (rantSAssignChannel s₀ args ok).value = .ok o)
    (hrun : Lts.Exec configStep Lts.Any (rantSAssignChannel s₀ args ok).state as s) :
    ∃ u, o < s.nextId ∧ ∀ ch, s.objects o = some ch → Configured args u (settingsOn o as) ch := by
  obtain ⟨u, -, rfl, hobj, hid⟩ := assign_eq_ok hassign
  refine ⟨u, ?_⟩
  induction hrun with
  | nil =>
    refine ⟨by rw [hid]; exact Nat.lt_succ_self _, fun ch ho => ?_⟩
    rw [hobj, Option.some.injEq] at ho
    subst ho
    exact ⟨rfl, rfl, rfl, recorded_initialized _ args u⟩
  | snoc hrun hg hs ih => exact configured_step ih.1 ih.2 hs

-- ---------------------------------------------------------------------------
-- Diagnostics
-- ---------------------------------------------------------------------------

/-- The object has a description; under each number it is registered for,
`on_event_tx` gets to its send, and every nonzero status is logged as an
error. -/
structure Diagnosable (s : State) (o : ObjId) (ch : ChannelObject) : Prop where
  inspect : ∃ text, Channel.inspect s o ch = .ok text
  eventTx : ∀ n, s.registry.lookup (int2fix n) = some o →
    onEventTx s n = rantChannelSendBroadcastData ch.toRantChannel (.str ident)
  logged : ∀ n data status errDesc logDesc, s.registry.lookup (int2fix n) = some o →
    data[2]? = some status → status ≠ 0 →
    ∃ text, Response.logResponseEvent s n data errDesc logDesc = .ok (.error text)

/-- The channel type can be compared with the channel types, the network
number was given and prints, the frequency was set last to a value that 2400
can be added to, and the channel id, if it was set, last with a device type
that can be masked and a transmission type that prints. -/
structure PrintableSettings (a : AssignArgs) (n : UInt8) (calls : List SetterCall) : Prop where
  channelType : (channelTypeDescription a.channelType).isOk = true
  network : a.networkNumber.prints = true
  frequency : ∃ v, lastArgs (SetterCall.records n) Setter.frequencyArg calls = some v ∧
    v.adds 2400 = true
  channelId : ∀ number type transmission,
    lastArgs (SetterCall.records n) Setter.idArgs calls = some (number, type, transmission) →
    type.masks 0x7f 0x80 = true ∧ transmission.prints = true

theorem rtest_of_num2ushort {v : Value} {u : UInt16} (h : num2ushort v = .ok u) :
    v.rtest = true := by
  cases v with
  | nil | false => cases h
  | _ => rfl

/-- A recorded device number is one that `NUM2USHORT` accepted, so it prints. -/
theorem deviceNumber_of_lastArgs {n : UInt8} {calls : List SetterCall}
    {number type transmission : Value}
    (h : lastArgs (SetterCall.records n) Setter.idArgs calls =
      some (number, type, transmission)) :
    number.rtest = true ∧ number.prints = true := by
  obtain ⟨⟨p, ok⟩, -, hrec, hargs⟩ := exists_of_lastArgs h
  cases p with
  | channelId d t x timeout =>
    cases hargs
    obtain ⟨u, -, -, hu, -⟩ := channelIdCall_isOk (Bool.and_eq_true_iff.mp hrec).1
    exact ⟨rtest_of_num2ushort hu, prints_of_num2ushort hu⟩
  | _ => cases hargs

/-- What an object has to have for a description, in terms of the calls that
gave it. The attributes that are not set are nil, which prints nowhere; a
device number that was recorded is one that prints. -/
theorem describable_iff {a : AssignArgs} {u : UInt16} {calls : List SetterCall}
    {ch : ChannelObject} (h : Configured a u calls ch) :
    Describable ch.ivars ↔ PrintableSettings a u.toUInt8 calls := by
  obtain ⟨-, htype, hnetwork, hrec⟩ := h
  have hid := hrec.channelId
  have hfrequency := hrec.rfFrequency
  constructor
  · rintro ⟨ht, hn, hf, hc⟩
    refine ⟨htype ▸ ht, hnetwork ▸ hn, ?_, ?_⟩
    · -- an unset frequency is no number
      cases hlast : lastArgs (SetterCall.records u.toUInt8) Setter.frequencyArg calls with
      | none =>
        rw [hfrequency, hlast] at hf
        cases hf
      | some v =>
        rw [hfrequency, hlast] at hf
        exact ⟨v, rfl, hf⟩
    · intro number type transmission hlast
      rw [hlast, Option.getD_some, Prod.mk.injEq, Prod.mk.injEq] at hid
      obtain ⟨hnum, htype, htrans⟩ := hid
      rw [hnum, htype, htrans] at hc
      exact (hc (deviceNumber_of_lastArgs hlast).1).2
  · rintro ⟨ht, hn, ⟨v, hlast, hv⟩, hc⟩
    refine ⟨htype ▸ ht, hnetwork ▸ hn, by rw [hfrequency, hlast]; exact hv, fun hset => ?_⟩
    cases hlastId : lastArgs (SetterCall.records u.toUInt8) Setter.idArgs calls with
    | none =>
      rw [hlastId, Option.getD_none, Prod.mk.injEq] at hid
      rw [hid.1] at hset
      cases hset
    | some x =>
      obtain ⟨number, type, transmission⟩ := x
      rw [hlastId, Option.getD_some, Prod.mk.injEq, Prod.mk.injEq] at hid
      obtain ⟨hnum, htype, htrans⟩ := hid
      rw [hnum, htype, htrans]
      exact ⟨(deviceNumber_of_lastArgs hlastId).2, hc _ _ _ hlastId⟩

/-- The handlers depend on the description only: `on_event_tx` and the log of
an error make it before they do anything else, so they raise where it raises,
and get to their work where it does not. -/
theorem diagnosable_iff {s : State} {o : ObjId} {ch : ChannelObject} (ho : s.objects o = some ch) :
    Diagnosable s o ch ↔ (inspect s o ch).isOk = true := by
  rw [Except.isOk_iff]
  constructor
  · exact fun h => h.inspect
  · rintro ⟨text, htext⟩
    have hat : ∀ n, s.registry.lookup (int2fix n) = some o → s.registryAt n = some (o, ch) := by
      intro n hn
      rw [State.registryAt, hn, Option.bind_some, ho]
      rfl
    refine ⟨⟨text, htext⟩, ?_, ?_⟩
    · intro n hn
      rw [onEventTx, hat n hn]
      simp only [htext]
    · intro n data status errDesc logDesc hn hstatus hnonzero
      rw [Response.logResponseEvent, hstatus]
      simp only [hat n hn, htext, if_pos hnonzero]
      exact ⟨_, rfl⟩

/-- **Diagnostics.** For every channel that `Ant.assign_channel` returned, and
after every run of operations and settings: it has a description, and the
handlers get past it, if and only if all that is formatted can be: a network
number that prints was given, the last frequency set is one that 2400 can be
added to, the channel id prints if one was set, and the channel type can be
compared. -/
theorem diagnostics_iff {args : AssignArgs} {o : ObjId} {s₀ s : State} {as : List ConfigAction}
    {ch : ChannelObject} {ok : Bool} (hassign : (rantSAssignChannel s₀ args ok).value = .ok o)
    (hrun : Lts.Exec configStep Lts.Any (rantSAssignChannel s₀ args ok).state as s)
    (ho : s.objects o = some ch) :
    Diagnosable s o ch ↔ PrintableSettings args ch.channelNum (settingsOn o as) := by
  obtain ⟨u, -, hconfigured⟩ := configured_exec hassign hrun
  have hch := hconfigured ch ho
  rw [diagnosable_iff ho, isOk_inspect_iff, describable_iff hch, hch.number]

/-- `Ant.assign_channel( 3, 0x10, 1 )`. -/
def masterArgs : AssignArgs := ⟨.int 3, .int 0x10, .int 1, .nil, .nil⟩

/-- A channel with id and frequency, which is then closed. -/
def describedActions : List ConfigAction :=
  [.set 0 ⟨.channelId (.int 4660) (.int 0x81) (.int 5) .nil, true⟩,
    .set 0 ⟨.channelRfFreq (.int 57), true⟩, .ruby (.close 0 .nil true)]

/-- A channel that was given an id and a frequency keeps its description when
it is closed. -/
theorem diagnostics_iff_closed : ∃ s ch,
    Lts.Exec configStep Lts.Any (rantSAssignChannel init masterArgs true).state
      describedActions s ∧
    s.objects 0 = some ch ∧ s.closedP 0 = some true ∧ Diagnosable s 0 ch := by
  have hrun : (Lts.runIf configStep (fun _ _ => true)
      (rantSAssignChannel init masterArgs true).state describedActions).map
        (fun s => (s.numberOf 0, s.closedP 0)) = some (some 3, some true) := by decide +kernel
  obtain ⟨s, hexec, hval⟩ := Lts.exec_of_computed hrun
  obtain ⟨hnum, hclosed⟩ := Prod.mk.inj hval
  obtain ⟨ch, ho, hnum⟩ := Option.map_eq_some_iff.mp hnum
  refine ⟨s, ch, hexec, ho, hclosed, (diagnostics_iff rfl hexec ho).mpr ?_⟩
  rw [hnum]
  refine ⟨rfl, rfl, ⟨.int 57, rfl, rfl⟩, fun number type transmission hlast => ?_⟩
  have hid : lastArgs (SetterCall.records 3) Setter.idArgs (settingsOn 0 describedActions) =
      some (.int 4660, .int 0x81, .int 5) := rfl
  rw [hid] at hlast
  cases hlast
  exact ⟨rfl, rfl⟩

/-- **A new channel has no description.** `EVENT_TX` sends nothing, and the
error of a refused `open` is not logged: all three raise NoMethodError. -/
theorem newChannel_undescribed :
    let s := (rantSAssignChannel init masterArgs true).state
    ∃ ch, (rantSAssignChannel init masterArgs true).value = .ok 0 ∧ s.objects 0 = some ch ∧
      s.registry.lookup (int2fix 3) = some 0 ∧ inspect s 0 ch = .error .noMethodError ∧
      onEventTx s 3 = ⟨.error .noMethodError, []⟩ ∧
      Response.onOpenChannel s 3 [3, mesgOpenChannelId, 0x15] = .error .noMethodError ∧
      ¬ Diagnosable s 0 ch := by
  refine ⟨initialized masterArgs 3, rfl, rfl, rfl, rfl, rfl, rfl, fun h => ?_⟩
  obtain ⟨text, htext⟩ := h.inspect
  cases htext

end AntWireless.Channel
