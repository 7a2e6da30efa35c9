import AntWireless.Defines
import AntWireless.Ruby
import AntWireless.Lib.Bytes
import AntWireless.Lib.Exec
import Mathlib.Data.List.AList
import Mathlib.Logic.Function.Basic

/-!
# AntWireless — channel objects, the registry and the library's tables

Ruby objects of class `Ant::Channel` live in a heap until the collector frees them;
`@registry` maps channel numbers to objects; the ANT library knows which numbers are
assigned and which buffer it was given for the events of a number. The three are tied
by channel numbers only.

* `rantSAssignChannel`, `rantChannelClose`, `rantSReset`, `rantSClose`,
  `rantChannelOnEvent`, `rantChannelFree` — the operations: what they return or
  raise, the library calls they make, and the state they leave.
* `Action`, `perform`, `step` — their interleavings.
-/

namespace AntWireless.Channel

-- ---------------------------------------------------------------------------
-- Channel objects
-- ---------------------------------------------------------------------------

/-- The identity of a Ruby object. It is not used again after the object is freed. -/
abbrev ObjId := Nat

/-- `unsigned char buffer[ MESG_MAX_SIZE ]`. -/
structure Buffer where
  bytes : List UInt8
  size : bytes.length = mesgMaxSize
  deriving DecidableEq, Repr

/-- The bytes the library writes for one event; they fit into a channel's buffer. -/
structure EventBytes where
  bytes : List UInt8
  fits : bytes.length ≤ mesgMaxSize
  deriving DecidableEq, Repr

/-- `MEMZERO( ptr->buffer, unsigned char, MESG_MAX_SIZE )`. -/
def Buffer.zero : Buffer := ⟨List.replicate mesgMaxSize 0, List.length_replicate⟩

/-- The library writes an event to the start of the buffer. -/
def Buffer.write (b : Buffer) (e : EventBytes) : Buffer :=
  ⟨Bytes.overlay e.bytes b.bytes, by
    rw [Bytes.length_overlay, b.size]
    rw [b.size]
    exact e.fits⟩

/-- A block given to `on_event`: one of the program, or
`handle_event_callback` (`set_event_handlers`). -/
inductive Block
  | proc (id : Nat)
  | handleEventCallback
  deriving DecidableEq, Repr

/-- `rant_channel_t`; a `callback` that is `Qnil` is `none`. -/
structure RantChannel where
  channelNum : UInt8
  buffer : Buffer
  callback : Option Block
  deriving DecidableEq, Repr

/-- The instance variables of an `Ant::Channel`. -/
structure ChannelIvars where
  channelType : Value
  networkNumber : Value
  extendedOptions : Value
  deviceType : Value
  deviceNumber : Value
  transmissionType : Value
  rfFrequency : Value
  agilityFrequencies : Option (List Value)
  deriving DecidableEq, Repr

/-- An `Ant::Channel` object. -/
structure ChannelObject extends RantChannel where
  ivars : ChannelIvars
  deriving DecidableEq, Repr

/-- `rant_channel_alloc`. -/
def rantChannelAlloc : ChannelObject where
  channelNum := 0
  buffer := Buffer.zero
  callback := none
  ivars := ⟨.nil, .nil, .nil, .nil, .nil, .nil, .nil, none⟩

-- ---------------------------------------------------------------------------
-- The library
-- ---------------------------------------------------------------------------

/-- The library calls of the operations below, with the arguments they pass. A
buffer is named by the object it lies in. -/
inductive LibraryCall
  | assignChannelExtRTO (n type network extend responseTime : UInt8)
  | closeChannelRTO (n : UInt8) (responseTime : UInt32)
  | resetSystem
  | close
  | assignChannelEventFunction (n : UInt8) (buffer : Option ObjId)
  | unAssignChannel (n : UInt8)
  deriving DecidableEq, Repr

/-- The channel number a call names. -/
def LibraryCall.channel : LibraryCall → Option UInt8
  | .assignChannelExtRTO n _ _ _ _ | .closeChannelRTO n _ | .assignChannelEventFunction n _
  | .unAssignChannel n => some n
  | .resetSystem | .close => none

/-- What a number was assigned as. The response time of the call only bounds
its waiting. -/
structure Assignment where
  type : UInt8
  network : UInt8
  extend : UInt8
  deriving DecidableEq, Repr

/-- The assignment that a call makes. -/
def LibraryCall.assignment : LibraryCall → Option Assignment
  | .assignChannelExtRTO _ type network extend _ => some ⟨type, network, extend⟩
  | .closeChannelRTO .. | .resetSystem | .close | .assignChannelEventFunction ..
  | .unAssignChannel _ => none

/-- The assignments of the numbers on the hardware, and the buffer last
registered with `rant_channel_on_event_callback` for each number. -/
structure Library where
  assignment : UInt8 → Option Assignment
  eventFn : UInt8 → Option ObjId

/-- The number is assigned, as whatever. -/
def Library.assigned (l : Library) (n : UInt8) : Bool := (l.assignment n).isSome

/-- What a call does, given whether it succeeds. -/
def Library.apply (l : Library) : LibraryCall → Bool → Library
  | .assignChannelExtRTO n type network extend _, ok =>
    if ok then
      { l with assignment := Function.update l.assignment n (some ⟨type, network, extend⟩) }
    else l
  | .closeChannelRTO _ _, _ => l
  | .resetSystem, _ | .close, _ => { l with assignment := fun _ => none }
  | .assignChannelEventFunction n buffer, _ =>
    { l with eventFn := Function.update l.eventFn n buffer }
  | .unAssignChannel n, _ => { l with assignment := Function.update l.assignment n none }

/-- Which numbers are assigned, after one assignment was written or removed. -/
theorem Library.assigned_update {l l' : Library} {n : UInt8} {v : Option Assignment}
    (h : l'.assignment = Function.update l.assignment n v) :
    l'.assigned = Function.update l.assigned n v.isSome := by
  funext m
  rw [Library.assigned, h]
  by_cases hm : m = n
  · subst hm
    rw [Function.update_self, Function.update_self]
  · rw [Function.update_of_ne hm, Function.update_of_ne hm]
    rfl

-- ---------------------------------------------------------------------------
-- States and outcomes
-- ---------------------------------------------------------------------------

/-- The heap of channel objects, `@registry` keyed as it is in Ruby, and the library. -/
structure State where
  objects : ObjId → Option ChannelObject
  nextId : ObjId
  registry : AList fun _ : Value => ObjId
  library : Library

/-- No channel has been assigned. -/
def init : State := ⟨fun _ => none, 0, ∅, ⟨fun _ => none, fun _ => none⟩⟩

/-- An operation returns or raises, makes library calls and leaves a state. -/
structure Outcome (α : Type) where
  value : Except RubyError α
  calls : List LibraryCall
  state : State

/-- `INT2FIX` of a channel number. -/
def int2fix (n : UInt8) : Value := .int n.toNat

/-- Keys of the registry that `INT2FIX` made are apart if their numbers are. -/
theorem int2fix_injective : Function.Injective int2fix := by
  intro m n h
  exact UInt8.toNat.inj (Int.ofNat.inj (Value.int.inj h))

/-- A number survives the trip through Ruby: the Integer that `channel_number`
returns is read back as the same byte. -/
theorem num2chr_int2fix (n : UInt8) : num2chr (int2fix n) = .ok n := by
  have hlt : n.toNat < 256 := n.toNat_lt
  refine num2chr_int_iff.mpr ⟨?_, ?_⟩ <;> omega

theorem num2ushort_int2fix (n : UInt8) : num2ushort (int2fix n) = .ok (UInt16.ofInt n.toNat) := by
  have hlt : n.toNat < 256 := n.toNat_lt
  refine num2ushort_int_iff.mpr ⟨?_, ofInt16_eq_iff.mp rfl⟩
  omega

namespace State

def setObject (s : State) (o : ObjId) (ch : ChannelObject) : State :=
  { s with objects := Function.update s.objects o (some ch) }

def call (s : State) (c : LibraryCall) (ok : Bool) : State :=
  { s with library := s.library.apply c ok }

/-- The number an object carries, if it has not been collected. -/
def numberOf (s : State) (o : ObjId) : Option UInt8 := (s.objects o).map fun ch => ch.channelNum

/-- The block of an object, if it has one. -/
def blockOf (s : State) (o : ObjId) : Option Block := (s.objects o).bind fun ch => ch.callback

/-- The registry holds the object, under any key. -/
def registered (s : State) (o : ObjId) : Bool := s.registry.entries.any fun e => e.2 = o

/-- An object is in the registry exactly if some key leads to it. -/
theorem registered_iff {s : State} {o : ObjId} :
    s.registered o = true ↔ ∃ k, s.registry.lookup k = some o := by
  rw [registered, List.any_eq_true]
  constructor
  · rintro ⟨⟨k, p⟩, hmem, hp⟩
    obtain rfl := of_decide_eq_true hp
    exact ⟨k, AList.mem_lookup_iff.mpr hmem⟩
  · rintro ⟨k, hk⟩
    exact ⟨⟨k, o⟩, AList.mem_lookup_iff.mp hk, decide_eq_true rfl⟩

end State

-- ---------------------------------------------------------------------------
-- The operations
-- ---------------------------------------------------------------------------

/-- The arguments of `Ant.assign_channel`; an omitted one is `nil`. -/
structure AssignArgs where
  channel : Value
  channelType : Value
  networkNumber : Value
  extendedOptions : Value
  timeout : Value
  deriving DecidableEq, Repr

/-- The library call of `rant_s_assign_channel`, if its arguments convert. -/
def assignCall (a : AssignArgs) : Except RubyError LibraryCall := do
  let ucChannel ← num2chr a.channel
  let ucChannelType ← num2chr a.channelType
  let ucNetworkNumber ← optionalChr a.networkNumber
  let ucExtend ← optionalChr a.extendedOptions
  let ulResponseTime ← optionalChr a.timeout
  return .assignChannelExtRTO ucChannel ucChannelType ucNetworkNumber ucExtend ulResponseTime

/-- The object after `rant_channel_init`, its number converted. -/
def initialized (a : AssignArgs) (channelNumber : UInt16) : ChannelObject where
  channelNum := channelNumber.toUInt8
  buffer := Buffer.zero
  callback := none
  ivars := ⟨a.channelType, a.networkNumber, a.extendedOptions, .nil, .nil, .nil, .nil, none⟩

/-- `rant_channel_init`. The key in the registry is the argument, not its conversion. -/
def rantChannelInit (s : State) (self : ObjId) (a : AssignArgs) : State × Except RubyError Unit :=
  match num2ushort a.channel with
  | .error e => (s, .error e)
  | .ok channelNumber =>
    ({ s.setObject self (initialized a channelNumber) with
        registry := s.registry.insert a.channel self }, .ok ())

/-- `rb_class_new_instance`: an object whose `initialize` raises stays in the heap. -/
def newInstance (s : State) (a : AssignArgs) : State × Except RubyError ObjId :=
  let self := s.nextId
  let (s', r) :=
    rantChannelInit { s.setObject self rantChannelAlloc with nextId := self + 1 } self a
  (s', r.map fun _ => self)

/-- `rant_s_assign_channel`. -/
def rantSAssignChannel (s : State) (a : AssignArgs) (ok : Bool) : Outcome ObjId :=
  match assignCall a with
  | .error e => ⟨.error e, [], s⟩
  | .ok c =>
    if ok then
      let (s', r) := newInstance (s.call c true) a
      ⟨r, [c], s'⟩
    else
      let n := (c.channel.getD 0).toNat
      ⟨.error (.runtimeError ("Couldn't assign channel " ++ toString n)), [c], s.call c false⟩

/-- `if ( RTEST(timeout) ) ulResponseTime = NUM2UINT( timeout )`. -/
def optionalUint (v : Value) : Except RubyError UInt32 := if v.rtest then num2uint v else .ok 0

/-- `rant_channel_close` on the object `ch`. -/
def rantChannelClose (s : State) (ch : RantChannel) (timeout : Value) (ok : Bool) : Outcome Unit :=
  match optionalUint timeout with
  | .error e => ⟨.error e, [], s⟩
  | .ok ulResponseTime =>
    let c := .closeChannelRTO ch.channelNum ulResponseTime
    if ok then
      ⟨.ok (), [c], { s.call c true with registry := s.registry.erase (int2fix ch.channelNum) }⟩
    else ⟨.error (.runtimeError "Failed to close the channel."), [c], s.call c false⟩

/-- `rant_channel_closed_p`. -/
def rantChannelClosedP (s : State) (self : ObjId) (ch : RantChannel) : Bool :=
  s.registry.lookup (int2fix ch.channelNum) ≠ some self

/-- `rant_s_reset`. -/
def rantSReset (s : State) : Outcome Unit :=
  ⟨.ok (), [.resetSystem], { s.call .resetSystem true with registry := ∅ }⟩

/-- `rant_s_close`. -/
def rantSClose (s : State) : Outcome Unit :=
  ⟨.ok (), [.close], { s.call .close true with registry := ∅ }⟩

/-- `rant_channel_on_event` on the object `self`. -/
def rantChannelOnEvent (s : State) (self : ObjId) (ch : ChannelObject) (block : Option Block) :
    Outcome Unit :=
  match block with
  | none => ⟨.error (.localJumpError "block required, but not given"), [], s⟩
  | some b =>
    let c := .assignChannelEventFunction ch.channelNum (some self)
    ⟨.ok (), [c], (s.setObject self { ch with callback := some b }).call c true⟩

/-- `rant_channel_free` on the object `self`. -/
def rantChannelFree (s : State) (self : ObjId) (ch : RantChannel) : Outcome Unit :=
  let c₁ := .assignChannelEventFunction ch.channelNum none
  let c₂ := .unAssignChannel ch.channelNum
  ⟨.ok (), [c₁, c₂],
    { (s.call c₁ true).call c₂ true with objects := Function.update s.objects self none }⟩

-- ---------------------------------------------------------------------------
-- Runs
-- ---------------------------------------------------------------------------

/-- One operation; `ok` is whether its library call succeeds. -/
inductive Action
  | assignChannel (a : AssignArgs) (ok : Bool)
  | close (o : ObjId) (timeout : Value) (ok : Bool)
  | reset
  | antClose
  | onEvent (o : ObjId) (block : Option Block)
  -- the collector frees an object that is not in the registry
  | gc (o : ObjId)
  deriving DecidableEq, Repr

/-- The library calls an action makes and the state it leaves; `none` where
the object does not exist, or may not be collected. -/
def perform (s : State) : Action → Option (List LibraryCall × State)
  | .assignChannel a ok =>
    let r := rantSAssignChannel s a ok
    some (r.calls, r.state)
  | .close o timeout ok =>
    (s.objects o).map fun ch =>
      let r := rantChannelClose s ch.toRantChannel timeout ok
      (r.calls, r.state)
  | .reset => some ((rantSReset s).calls, (rantSReset s).state)
  | .antClose => some ((rantSClose s).calls, (rantSClose s).state)
  | .onEvent o block =>
    (s.objects o).map fun ch =>
      let r := rantChannelOnEvent s o ch block
      (r.calls, r.state)
  | .gc o =>
    if s.registered o = true then none
    else
      (s.objects o).map fun ch =>
        let r := rantChannelFree s o ch.toRantChannel
        (r.calls, r.state)

def step (s : State) (a : Action) : Option State := (perform s a).map Prod.snd

end AntWireless.Channel
