import AntWireless.Channel.Diagnostics
import AntWireless.Lib.Bits

/-!
# AntWireless — the channel ID in a string

`channel_id` prints the three values of a channel ID with slashes between them. The pairing
bit is taken out of the device type and printed as a plus sign behind the last value.

* `Identified` — the ID that a channel has had set.
* `readChannelId` — the reader of such a string.
* `channelId_identifies` — the string is that ID's alone, and can be read back.
-/

namespace AntWireless.Channel

/-- The values of a channel ID. -/
structure DeviceId where
  deviceNumber : UInt16
  deviceType : UInt8
  transmissionType : UInt8
  deriving DecidableEq, Repr

/-- The arguments of `set_channel_id`. -/
def DeviceId.args (id : DeviceId) : Value × Value × Value :=
  (.int id.deviceNumber.toNat, .int id.deviceType.toNat, .int id.transmissionType.toNat)

/-- A channel that `Ant.assign_channel` returned, after some run of operations
and settings; the last `set_channel_id` that succeeded on it had these
values. -/
def Identified (ch : ChannelObject) (id : DeviceId) : Prop :=
  ∃ s₀ args ok o as s, (rantSAssignChannel s₀ args ok).value = .ok o ∧
    Lts.Exec configStep Lts.Any (rantSAssignChannel s₀ args ok).state as s ∧
    s.objects o = some ch ∧
    lastArgs (SetterCall.records ch.channelNum) Setter.idArgs (settingsOn o as) = some id.args

/-- What a string of `channel_id` says. -/
structure IdFields where
  deviceNumber : Nat
  deviceType : Nat
  transmissionType : Nat
  pairing : Bool
  deriving DecidableEq, Repr

/-- The fields between the slashes, and whether there is a plus sign at the end. -/
def readChannelId (text : String) : Option IdFields :=
  match text.toList.splitOn '/' with
  | [number, type, transmission] =>
    some {
      deviceNumber := Nat.ofDigitChars 10 number 0
      deviceType := Nat.ofDigitChars 10 type 0
      transmissionType := Nat.ofDigitChars 10 (transmission.takeWhile Char.isDigit) 0
      pairing := text.toList.getLast? = some '+' }
  | _ => none

/-- The device type without its pairing bit, and the bit. -/
def DeviceId.fields (id : DeviceId) : IdFields where
  deviceNumber := id.deviceNumber.toNat
  deviceType := id.deviceType.toNat &&& 0x7f
  transmissionType := id.transmissionType.toNat
  pairing := id.deviceType.toNat &&& 0x80 ≠ 0

-- ---------------------------------------------------------------------------
-- The string
-- ---------------------------------------------------------------------------

def IdFields.text (f : IdFields) : String :=
  toString f.deviceNumber ++ "/" ++ toString f.deviceType ++ "/" ++
    toString f.transmissionType ++ (if f.pairing then "+" else "")

/-- The string of a channel with an id, from the values that were set: all of
them are Integers, which print as they are. -/
theorem channelId_of_identified {ch : ChannelObject} {id : DeviceId} (h : Identified ch id) :
    channelId ch.ivars = .ok (some id.fields.text) := by
  obtain ⟨s₀, args, ok, o, as, s, hassign, hrun, ho, hlast⟩ := h
  obtain ⟨u, -, hconfigured⟩ := configured_exec hassign hrun
  obtain ⟨hnumber, -, -, hrec⟩ := hconfigured ch ho
  have hid := hrec.channelId
  rw [← hnumber, hlast, Option.getD_some, DeviceId.args, Prod.mk.injEq, Prod.mk.injEq] at hid
  obtain ⟨hnum, htype, htrans⟩ := hid
  have hpairing : Value.nonzeroP (.int (Int.land id.deviceType.toNat 0x80)) =
      .ok (decide (id.deviceType.toNat &&& 0x80 ≠ 0)) :=
    congrArg Except.ok (decide_eq_decide.mpr Nat.cast_ne_zero)
  rw [channelId, hnum, if_pos (show (Value.int _).rtest = true from rfl), htype, htrans]
  show ((Value.nonzeroP (.int (Int.land id.deviceType.toNat 0x80))).bind fun pairing =>
    .ok (some { id.fields with pairing := pairing }.text)) = _
  rw [hpairing]
  rfl

-- ---------------------------------------------------------------------------
-- Reading it back
-- ---------------------------------------------------------------------------

/-- The sign behind the last value; it has no digits. -/
def pairingSign (pairing : Bool) : List Char :=
  if pairing then ['+'] else []

/-- The text is three numerals between slashes, and the sign. -/
theorem toList_text (f : IdFields) : f.text.toList =
    ['/'].intercalate [Nat.toDigits 10 f.deviceNumber, Nat.toDigits 10 f.deviceType,
      Nat.toDigits 10 f.transmissionType ++ pairingSign f.pairing] := by
  have hsign : (if f.pairing then "+" else "").toList = pairingSign f.pairing := by
    cases f.pairing <;> rfl
  simp [IdFields.text, hsign, List.intercalate]

theorem isDigit_of_mem_decimal {n : Nat} {c : Char} (hc : c ∈ Nat.toDigits 10 n) :
    c.isDigit = true :=
  Nat.isDigit_of_mem_toDigits (by decide) (by decide) hc

/-- No field has a slash in it, so splitting at the slashes gives the fields back. -/
theorem splitOn_text (f : IdFields) : f.text.toList.splitOn '/' =
    [Nat.toDigits 10 f.deviceNumber, Nat.toDigits 10 f.deviceType,
      Nat.toDigits 10 f.transmissionType ++ pairingSign f.pairing] := by
  have hslash : ∀ n, '/' ∉ Nat.toDigits 10 n := by
    intro n hmem
    exact absurd (isDigit_of_mem_decimal hmem) (by decide)
  have hsign : '/' ∉ pairingSign f.pairing := by
    cases f.pairing <;> decide
  rw [toList_text]
  refine List.splitOn_intercalate _ ?_ (List.cons_ne_nil _ _)
  simp [hslash, hsign]

/-- The sign is told from the last numeral. -/
theorem takeWhile_isDigit (n : Nat) (pairing : Bool) :
    (Nat.toDigits 10 n ++ pairingSign pairing).takeWhile Char.isDigit = Nat.toDigits 10 n := by
  rw [List.takeWhile_append_of_pos fun c hc => isDigit_of_mem_decimal hc]
  cases pairing with
  | false => exact List.append_nil _
  | true => exact List.append_nil _

/-- The last character is a digit if there is no sign. -/
theorem getLast?_text (f : IdFields) : f.text.toList.getLast? = some '+' ↔ f.pairing = true := by
  obtain ⟨c, hc⟩ : ∃ c, (Nat.toDigits 10 f.transmissionType).getLast? = some c :=
    Option.isSome_iff_exists.mp (by simp)
  have hdigit : c.isDigit = true := isDigit_of_mem_decimal (List.mem_of_getLast? hc)
  have hne : c ≠ '+' := by
    rintro rfl
    exact absurd hdigit (by decide)
  have hfront : f.text.toList = (Nat.toDigits 10 f.deviceNumber ++ '/' ::
      Nat.toDigits 10 f.deviceType ++ ['/']) ++
      (Nat.toDigits 10 f.transmissionType ++ pairingSign f.pairing) := by
    rw [toList_text]
    simp [List.intercalate]
  rw [hfront, List.getLast?_append, List.getLast?_append, hc]
  cases f.pairing <;> simp [pairingSign, hne]

/-- **Round trip.** What the text says can be read back: the three fields
between the slashes, and the sign at the end. -/
theorem readChannelId_text (f : IdFields) : readChannelId f.text = some f := by
  rw [readChannelId, splitOn_text]
  simp only [Nat.ofDigitChars_ten_toDigits, takeWhile_isDigit, getLast?_text, Bool.decide_eq_true]

/-- The device type is made up of its two fields: seven bits and the pairing bit. -/
theorem DeviceId.fields_injective {id id' : DeviceId} (h : id.fields = id'.fields) :
    id = id' := by
  have hcover : 0x7f ||| 0x80 = 2 ^ 8 - 1 := by decide
  have hbit : ∀ t : UInt8, t.toNat &&& 0x80 = if t.toNat &&& 0x80 ≠ 0 then 0x80 else 0 := by
    intro t
    have hand : t.toNat &&& 0x80 = (t.toNat.testBit 7).toNat * 2 ^ 7 := Nat.and_two_pow _ 7
    rw [hand]
    cases t.toNat.testBit 7 <;> rfl
  obtain ⟨number, type, transmission⟩ := id
  obtain ⟨number', type', transmission'⟩ := id'
  rw [fields, fields, IdFields.mk.injEq] at h
  obtain ⟨hnumber, htype, htransmission, hpairing⟩ := h
  have hbits : type.toNat &&& 0x80 = type'.toNat &&& 0x80 := by
    rw [hbit type, hbit type']
    simp only [decide_eq_decide.mp hpairing]
  have htypes : type.toNat = type'.toNat := by
    rw [← Bits.masks_cover type.toNat_lt hcover, ← Bits.masks_cover type'.toNat_lt hcover, htype,
      hbits]
  rw [mk.injEq]
  exact ⟨UInt16.toNat_inj.mp hnumber, UInt8.toNat_inj.mp htypes, UInt8.toNat_inj.mp htransmission⟩

/-- **Channel IDs.** For every two channels with IDs, whatever else was done:
both have a string, these are equal if and only if the IDs are, and the values
can be read back from between the slashes. -/
theorem channelId_identifies {ch ch' : ChannelObject} {id id' : DeviceId}
    (h : Identified ch id) (h' : Identified ch' id') :
    ∃ text text', channelId ch.ivars = .ok (some text) ∧
      channelId ch'.ivars = .ok (some text') ∧ (text = text' ↔ id = id') ∧
      readChannelId text = some id.fields := by
  refine ⟨id.fields.text, id'.fields.text, channelId_of_identified h, channelId_of_identified h',
    ⟨fun htext => ?_, fun hid => by rw [hid]⟩, readChannelId_text _⟩
  have hfields := congrArg readChannelId htext
  rw [readChannelId_text, readChannelId_text, Option.some.injEq] at hfields
  exact DeviceId.fields_injective hfields

/-- A run that leaves channel 3 with an ID. -/
theorem exists_identified {as : List ConfigAction} {id : DeviceId}
    (hrun : (Lts.runIf configStep (fun _ _ => true)
      (rantSAssignChannel init masterArgs true).state as).map (fun s => s.numberOf 0) =
        some (some 3))
    (hid : lastArgs (SetterCall.records 3) Setter.idArgs (settingsOn 0 as) = some id.args) :
    ∃ ch, Identified ch id := by
  obtain ⟨s, hexec, hnum⟩ := Lts.exec_of_computed hrun
  obtain ⟨ch, ho, hnum⟩ := Option.map_eq_some_iff.mp hnum
  exact ⟨ch, init, masterArgs, true, 0, as, s, rfl, hexec, ho, hnum ▸ hid⟩

/-- Two IDs that differ in the pairing bit only. -/
theorem channelId_identifies_pairing : ∃ (ch ch' : ChannelObject) (text text' : String),
    channelId ch.ivars = .ok (some text) ∧ channelId ch'.ivars = .ok (some text') ∧
      text ≠ text' ∧ readChannelId text = some ⟨4660, 1, 5, true⟩ := by
  have hrun : (Lts.runIf configStep (fun _ _ => true)
      (rantSAssignChannel init masterArgs true).state describedActions).map
        (fun s => s.numberOf 0) = some (some 3) := by decide +kernel
  have hrun' : (Lts.runIf configStep (fun _ _ => true)
      (rantSAssignChannel init masterArgs true).state
        [.set 0 ⟨.channelId (.int 4660) (.int 1) (.int 5) .nil, true⟩]).map
        (fun s => s.numberOf 0) = some (some 3) := by decide +kernel
  obtain ⟨ch, h⟩ := exists_identified hrun (show _ = some (DeviceId.args ⟨4660, 0x81, 5⟩) from rfl)
  obtain ⟨ch', h'⟩ := exists_identified hrun' (show _ = some (DeviceId.args ⟨4660, 1, 5⟩) from rfl)
  obtain ⟨text, text', htext, htext', hiff, hread⟩ := channelId_identifies h h'
  refine ⟨ch, ch', text, text', htext, htext', fun heq => ?_, hread⟩
  exact absurd (hiff.mp heq) (by decide)

end AntWireless.Channel
