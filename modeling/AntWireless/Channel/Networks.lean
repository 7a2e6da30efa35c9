import AntWireless.Channel.Lifetime
import AntWireless.Lib.LastWrite
import AntWireless.Validation

/-!
# AntWireless — networks and their keys

`Ant.set_network_key` gives the library the key of a network, `Ant.assign_channel` the network
of a channel. Each converts the number in its own way, and `network_number` of a channel is the
argument as it was given.

* `networkKeyCall`, `rantSSetNetworkKey`, `validateNetworkKey`.
* `networkStep` — what the library has been told, under any operations on keys and channels.
* `network_keyed` — the network and the key of every channel that is not closed.
-/

namespace AntWireless.Channel

-- ---------------------------------------------------------------------------
-- Keys
-- ---------------------------------------------------------------------------

/-- The eight bytes the library reads of a key. -/
structure NetworkKey where
  bytes : List UInt8
  size : bytes.length = 8
  deriving DecidableEq, Repr

/-- `rant_s_set_network_key` up to its library call, which takes the number as
a byte. -/
def networkKeyCall (number key : Value) : Except RubyError (UInt8 × NetworkKey) := do
  let ucNetNumber ← num2ushort number
  let pucKey ← stringValue key
  if h : pucKey.length = 8 then return (ucNetNumber.toUInt8, ⟨pucKey, h⟩)
  else .error (.argError "expected an 8-byte key")

/-- `rant_s_set_network_key`; where the library call fails it only logs that. -/
def rantSSetNetworkKey (number key : Value) (_ok : Bool) : Except RubyError Value :=
  (networkKeyCall number key).map fun _ => .true

/-- `validate_network_key` on the bytes of `data.to_s`. -/
def validateNetworkKey (data : List UInt8) : Except ValidationError (List UInt8) :=
  if data.length = 8 then .ok data
  else .error (.rangeError ("invalid network key; expected exactly eight bytes, got " ++
    toString data.length))

/-- The byte that is left of a number `NUM2USHORT` has accepted: the library's
network number is an unsigned char. -/
theorem num2ushort_byte_iff {v : Value} {w : UInt8} :
    (∃ u, num2ushort v = .ok u ∧ u.toUInt8 = w) ↔
      ∃ i, v.toInteger = .ok i ∧ (-32768 ≤ i ∧ i ≤ 65535) ∧ (w.toNat : Int) = i % 256 := by
  rw [num2ushort]
  cases hi : v.toInteger with
  | error e => simp [Except.bind, Except.map]
  | ok i =>
    have hrange : ∀ u, ((Except.ok i).bind (checkRange (-32768) 65535)).map UInt16.ofInt = .ok u ↔
        (-32768 ≤ i ∧ i ≤ 65535) ∧ UInt16.ofInt i = u := fun u => map_checkRange_eq_ok_iff
    constructor
    · rintro ⟨u, hu, rfl⟩
      obtain ⟨hi', rfl⟩ := (hrange u).mp hu
      exact ⟨i, rfl, hi', ofInt8_eq_iff.mp (toUInt8_ofInt16 i).symm⟩
    · rintro ⟨j, hj, hj', hw⟩
      obtain rfl := Except.ok.inj hj
      refine ⟨UInt16.ofInt i, (hrange _).mpr ⟨hj', rfl⟩, ?_⟩
      rw [toUInt8_ofInt16]
      exact ofInt8_eq_iff.mpr hw

theorem stringValue_eq_ok_iff {v : Value} {bytes : List UInt8} :
    stringValue v = .ok bytes ↔ v = .str bytes := by
  cases v <;> simp [stringValue]

/-- The library gets the low byte of the number, and the key as it is: eight
bytes of a String. Anything else raises before the call. -/
theorem networkKeyCall_eq_ok_iff {number key : Value} {w : UInt8} {k : NetworkKey} :
    networkKeyCall number key = .ok (w, k) ↔
      key = .str k.bytes ∧ ∃ i, number.toInteger = .ok i ∧ (-32768 ≤ i ∧ i ≤ 65535) ∧
        (w.toNat : Int) = i % 256 := by
  rw [← num2ushort_byte_iff]
  simp only [networkKeyCall, bind, Except.bind_eq_ok_iff, stringValue_eq_ok_iff]
  constructor
  · rintro ⟨u, hu, bytes, rfl, h⟩
    split at h
    · simp only [pure, Except.pure, Except.ok.injEq, Prod.mk.injEq] at h
      obtain ⟨rfl, rfl⟩ := h
      exact ⟨rfl, u, hu, rfl⟩
    · cases h
  · rintro ⟨rfl, u, hu, rfl⟩
    refine ⟨u, hu, k.bytes, rfl, ?_⟩
    rw [dif_pos k.size]
    rfl

-- ---------------------------------------------------------------------------
-- The system
-- ---------------------------------------------------------------------------

/-- The channels, and the key that the library has for each network since the
last reset. -/
structure NetworkState where
  chan : State
  key : UInt8 → Option NetworkKey

def networkInit : NetworkState := ⟨init, fun _ => none⟩

/-- The network that a number is assigned to. -/
def State.network (s : State) (n : UInt8) : Option UInt8 :=
  (s.library.assignment n).map fun a => a.network

def NetworkState.network (x : NetworkState) (n : UInt8) : Option UInt8 := x.chan.network n

inductive NetworkAction
  | setNetworkKey (number key : Value) (ok : Bool)
  | channel (a : Action)
  deriving DecidableEq, Repr

def networkStep (x : NetworkState) : NetworkAction → Option NetworkState
  | .setNetworkKey number key ok =>
    match networkKeyCall number key with
    | .error _ => some x
    | .ok (w, k) => some (if ok then { x with key := Function.update x.key w (some k) } else x)
  | .channel a =>
    (perform x.chan a).map fun r =>
      { chan := r.2
        key := if r.1.contains .resetSystem then fun _ => none else x.key }

/-- `Ant.assign_channel` does not use a number again that an object still
carries, nor one of a registered object. -/
def FreshNetwork (x : NetworkState) : NetworkAction → Prop
  | .channel (.assignChannel a true) => FreshNumber x.chan (.assignChannel a true) ∧
    IfOk (fun n => ∀ e ∈ x.chan.registry.entries, x.chan.numberOf e.2 ≠ some n)
      (num2chr a.channel)
  | _ => True

-- ---------------------------------------------------------------------------
-- What was given
-- ---------------------------------------------------------------------------

/-- A call that gives the key `k` to the network `w`, and the library takes it. -/
def NetworkAction.Gives (w : UInt8) (k : NetworkKey) (a : NetworkAction) : Prop :=
  ∃ number i, a = .setNetworkKey number (.str k.bytes) true ∧ number.toInteger = .ok i ∧
    (-32768 ≤ i ∧ i ≤ 65535) ∧ (w.toNat : Int) = i % 256

/-- `k` is the key last given to the network `w`, and there was no reset since. -/
def LastGiven (w : UInt8) (k : NetworkKey) (as : List NetworkAction) : Prop :=
  ∃ l a l', as = l ++ a :: l' ∧ a.Gives w k ∧
    ∀ b ∈ l', b ≠ .channel .reset ∧ ∀ k', ¬ b.Gives w k'

/-- What an action makes the key of the network `w`. -/
def keyWrite (w : UInt8) : NetworkAction → Option (Option NetworkKey)
  | .setNetworkKey number key true =>
    match networkKeyCall number key with
    | .ok (n, k) => if n = w then some (some k) else none
    | .error _ => none
  | .channel .reset => some none
  | _ => none

section Keys

variable {x x' : NetworkState} {w : UInt8} {k : NetworkKey} {a : NetworkAction}

/-- A key is written by the calls that give it. -/
theorem keyWrite_eq_key_iff : keyWrite w a = some (some k) ↔ a.Gives w k := by
  have hcall : ∀ number key, keyWrite w (.setNetworkKey number key true) = some (some k) ↔
      networkKeyCall number key = .ok (w, k) := by
    intro number key
    rw [keyWrite]
    cases hc : networkKeyCall number key with
    | error e => simp
    | ok r =>
      obtain ⟨n, k'⟩ := r
      by_cases hn : n = w
      · subst hn
        simp
      · simp [hn]
  constructor
  · intro h
    unfold keyWrite at h
    split at h
    · rename_i number key
      obtain ⟨rfl, i, hi, hrange, hw⟩ := networkKeyCall_eq_ok_iff.mp ((hcall number key).mp h)
      exact ⟨number, i, rfl, hi, hrange, hw⟩
    · cases h
    · cases h
  · rintro ⟨number, i, rfl, hi⟩
    exact (hcall number _).mpr (networkKeyCall_eq_ok_iff.mpr ⟨rfl, i, hi⟩)

theorem keyWrite_eq_reset_iff : keyWrite w a = some none ↔ a = .channel .reset := by
  constructor
  · intro h
    unfold keyWrite at h
    split at h
    · split at h
      · split at h <;> cases h
      · cases h
    · rfl
    · cases h
  · rintro rfl
    rfl

theorem keyWrite_eq_none_iff :
    keyWrite w a = none ↔ a ≠ .channel .reset ∧ ∀ k', ¬ a.Gives w k' := by
  simp only [← keyWrite_eq_key_iff, ne_eq, ← keyWrite_eq_reset_iff (w := w)]
  cases hw : keyWrite w a with
  | none => simp
  | some v => cases v <;> simp

/-- Only a reset makes the library forget its keys: no other operation makes
that library call. `Ant.close` ends the connection, which is another call. -/
theorem resets_iff {s s' : State} {a : Action} {calls : List LibraryCall}
    (h : perform s a = some (calls, s')) : .resetSystem ∈ calls ↔ a = .reset := by
  cases a with
  | reset =>
    obtain ⟨rfl, -⟩ := Prod.mk.inj (Option.some.inj h)
    simp [rantSReset]
  | antClose =>
    obtain ⟨rfl, -⟩ := Prod.mk.inj (Option.some.inj h)
    simp [rantSClose]
  | assignChannel args ok =>
    obtain ⟨rfl, -⟩ := Prod.mk.inj (Option.some.inj h)
    unfold rantSAssignChannel
    cases hc : assignCall args with
    | error e => simp
    | ok c =>
      obtain ⟨n, t, w, e, r, rfl, -⟩ := assignCall_eq_ok hc
      cases ok <;> simp
  | close o timeout ok =>
    obtain ⟨ch, -, heq⟩ := Option.map_eq_some_iff.mp h
    obtain ⟨rfl, -⟩ := Prod.mk.inj heq
    unfold rantChannelClose
    cases optionalUint timeout with
    | error e => simp
    | ok t => cases ok <;> simp
  | onEvent o block =>
    obtain ⟨ch, -, heq⟩ := Option.map_eq_some_iff.mp h
    obtain ⟨rfl, -⟩ := Prod.mk.inj heq
    cases block <;> simp [rantChannelOnEvent]
  | gc o =>
    rw [perform, Option.ite_none_left_eq_some] at h
    obtain ⟨ch, -, heq⟩ := Option.map_eq_some_iff.mp h.2
    obtain ⟨rfl, -⟩ := Prod.mk.inj heq
    simp [rantChannelFree]

/-- **Step.** The key that the library has for a network is what the last step
that writes it has made of it: a call that gives it and is taken, or a
reset. -/
theorem writes_key (w : UInt8) : Lts.Writes networkStep FreshNetwork (fun _ a => some a)
    (fun x => some (x.key w)) (keyWrite w) := by
  intro x a x' _ hs
  cases a with
  | setNetworkKey number key ok =>
    rw [networkStep] at hs
    cases hc : networkKeyCall number key with
    | error e =>
      rw [hc, Option.some.injEq] at hs
      subst hs
      cases ok <;> simp [keyWrite, hc]
    | ok r =>
      obtain ⟨n, k⟩ := r
      rw [hc, Option.some.injEq] at hs
      subst hs
      cases ok with
      | false => simp [keyWrite]
      | true =>
        by_cases hn : n = w
        · subst hn
          simp [keyWrite, hc]
        · simp [keyWrite, hc, hn, Function.update_of_ne (Ne.symm hn)]
  | channel a =>
    obtain ⟨⟨calls, s⟩, hp, rfl⟩ := Option.map_eq_some_iff.mp hs
    have hreset := resets_iff hp
    by_cases ha : a = .reset
    · subst ha
      simp [keyWrite, hreset]
    · have hnone : keyWrite w (.channel a) = none := by
        rw [keyWrite_eq_none_iff]
        refine ⟨by simpa using ha, ?_⟩
        rintro k' ⟨number, i, h, -⟩
        cases h
      simp [hnone, hreset, ha]

/-- **Run.** The keys at the end of a run are those last given, if no reset
came after. -/
theorem key_exec {as : List NetworkAction}
    (hrun : Lts.Exec networkStep FreshNetwork networkInit as x) :
    x.key w = some k ↔ LastGiven w k as := by
  rw [(writes_key w).exec_eq_some_iff rfl hrun.logged_actions k]
  simp only [keyWrite_eq_key_iff, keyWrite_eq_none_iff, LastGiven]

end Keys

-- ---------------------------------------------------------------------------
-- The networks of the numbers
-- ---------------------------------------------------------------------------

/-- The network that an argument of `Ant.assign_channel` names. -/
def Names (v : Value) (w : UInt8) : Prop :=
  (v.rtest = false ∧ w = 0) ∨ (∃ bytes, v = .str (w :: bytes)) ∨
    ∃ i, v.toInteger = .ok i ∧ (-2147483648 ≤ i ∧ i ≤ 2147483647) ∧ (w.toNat : Int) = i % 256

/-- The channels in the registry are on the networks that their attributes name. -/
def Tuned (s : State) : Prop :=
  ∀ k o ch, s.registry.lookup k = some o → s.objects o = some ch →
    ∃ w, optionalChr ch.ivars.networkNumber = .ok w ∧ s.network ch.channelNum = some w

/-- The argument names the network that the library is told. -/
theorem names_of_optionalChr {v : Value} {w : UInt8} (h : optionalChr v = .ok w) : Names v w := by
  have hint : ∀ v : Value, (num2int v).map (fun i => UInt8.ofInt i) = .ok w → ∃ i,
      v.toInteger = .ok i ∧ (-2147483648 ≤ i ∧ i ≤ 2147483647) ∧ (w.toNat : Int) = i % 256 := by
    intro v hv
    rw [num2int] at hv
    cases hi : v.toInteger with
    | error e =>
      rw [hi] at hv
      cases hv
    | ok i =>
      rw [hi] at hv
      obtain ⟨hrange, hw⟩ := map_checkRange_eq_ok_iff.mp hv
      exact ⟨i, rfl, hrange, ofInt8_eq_iff.mp hw⟩
  unfold optionalChr at h
  split at h
  · unfold num2chr at h
    split at h
    · obtain rfl := Except.ok.inj h
      exact .inr (.inl ⟨_, rfl⟩)
    · exact .inr (.inr (hint v h))
  · rename_i hfalse
    obtain rfl := Except.ok.inj h
    exact .inl ⟨by simpa using hfalse, rfl⟩

/-- The network of an assignment is read from the argument for it. -/
theorem assignCall_network {a : AssignArgs} {n t w e r : UInt8}
    (h : assignCall a = .ok (.assignChannelExtRTO n t w e r)) :
    num2chr a.channel = .ok n ∧ optionalChr a.networkNumber = .ok w := by
  simp only [assignCall, bind, pure, Except.pure, Except.bind_eq_ok_iff, Except.ok.injEq,
    LibraryCall.assignChannelExtRTO.injEq] at h
  obtain ⟨n', hn, t', -, w', hw, e', -, r', -, rfl, rfl, rfl, rfl, rfl⟩ := h
  exact ⟨hn, hw⟩

section Networks

variable {s s' : State} {a : Action}

/-- After one assignment was written or removed, every other number is on the
network it was. -/
theorem network_update_of_ne {m n : UInt8} {v : Option Assignment}
    (h : s'.library.assignment = Function.update s.library.assignment n v) (hne : m ≠ n) :
    s'.network m = s.network m := by
  rw [State.network, h, Function.update_of_ne hne]
  rfl

/-- With the assignments as they are, so are the networks. -/
theorem network_congr (h : s'.library.assignment = s.library.assignment) (n : UInt8) :
    s'.network n = s.network n := by
  rw [State.network, h]
  rfl

/-- **Step.** A channel in the registry keeps its network as long as no
assignment and no free names the number of another object: that is what the
two conditions are for. The cases are the changes a step can make; a new
channel is on the network that its arguments name. -/
theorem tuned_step (hkey : Keyed s) (hsole : Sole s) (h : Tuned s) {key : UInt8 → Option NetworkKey}
    (hfresh : FreshNetwork ⟨s, key⟩ (.channel a)) (hs : step s a = some s') : Tuned s' := by
  intro k o ch hk ho
  cases change_of_step hs with
  | unchanged a ha heq =>
    subst heq
    exact h k o ch hk ho
  | assigned args c u hc hu hn hobj hid hreg has hfn =>
    obtain ⟨n, t, w, e, r, rfl, -⟩ := assignCall_eq_ok hc
    rw [hreg] at hk
    rw [hobj] at ho
    rcases lookup_insert_cases hk with ⟨rfl, rfl⟩ | ⟨-, hk⟩
    · rw [Function.update_self, Option.some.injEq] at ho
      subst ho
      refine ⟨w, (assignCall_network hc).2, ?_⟩
      show (s'.library.assignment u.toUInt8).map _ = some w
      rw [has, Function.update_self]
      rfl
    · -- a registered object has another number
      rw [Function.update_of_ne (hkey.ne_nextId hk)] at ho
      have hne : ch.channelNum ≠ u.toUInt8 := by
        rintro hnum
        have hfr := hfresh.1
        simp only [FreshNumber, FreshFor, hc, hu] at hfr
        refine hfr o (hkey.fresh o ch ho) ?_
        rw [State.numberOf, ho, ← hnum]
        rfl
      rw [network_update_of_ne has hne]
      exact h k o ch hk ho
  | abandoned args c e n hc he hn hobj hid hreg has hfn =>
    obtain ⟨m, t, w, x, r, rfl, hchr⟩ := assignCall_eq_ok hc
    obtain rfl : m = n := Option.some.inj hn
    rw [hreg] at hk
    rw [hobj, Function.update_of_ne (hkey.ne_nextId hk)] at ho
    have hne : ch.channelNum ≠ m := by
      rintro hnum
      have hfr := hfresh.2
      rw [hchr, ifOk_ok] at hfr
      refine hfr ⟨k, o⟩ (AList.mem_lookup_iff.mp hk) ?_
      rw [State.numberOf, ho, ← hnum]
      rfl
    rw [network_update_of_ne has hne]
    exact h k o ch hk ho
  | closed o' ch' timeout t ht ho' hobj hid hreg hlib =>
    rw [hreg] at hk
    rw [hobj] at ho
    rw [network_congr (congrArg Library.assignment hlib)]
    exact h k o ch (lookup_erase_some hk).2 ho
  | cleared a ha hobj hid hreg has hfn =>
    rw [hreg] at hk
    cases hk
  | blockSet o' ch' b ho' hobj hid hreg has hfn =>
    rw [hreg] at hk
    rw [hobj] at ho
    rw [network_congr has]
    rcases update_cases ho with ⟨rfl, hch⟩ | ⟨-, ho⟩
    · rw [Option.some.injEq] at hch
      subst hch
      exact h k _ ch' hk ho'
    · exact h k o ch hk ho
  | freed o' ch' ho' hr hobj hid hreg has hfn =>
    rw [hreg] at hk
    rw [hobj] at ho
    obtain ⟨hne, ho⟩ := of_update ho (by simp)
    rw [network_update_of_ne has (Ne.symm (hsole.sole k o ch o' ch' hk ho ho' (Ne.symm hne)))]
    exact h k o ch hk ho

end Networks

-- ---------------------------------------------------------------------------
-- Validated arguments
-- ---------------------------------------------------------------------------

/-- The arguments of `Ant.set_network_key` come from the validators. -/
def NetworkAction.Validated : NetworkAction → Prop
  | .setNetworkKey number key _ => (∃ v i, validateNetworkNumber v = .ok i ∧ number = .int i) ∧
    ∃ data bytes, validateNetworkKey data = .ok bytes ∧ key = .str bytes
  | .channel _ => True

/-- `k` is the key last set under the number `j`, and there was no reset since. -/
def LastSet (j : Int) (k : NetworkKey) (as : List NetworkAction) : Prop :=
  ∃ l l', as = l ++ .setNetworkKey (.int j) (.str k.bytes) true :: l' ∧
    ∀ b ∈ l', b ≠ .channel .reset ∧ ∀ key, b ≠ .setNetworkKey (.int j) key true

/-- A number that passes the validator is an Integer that is a byte, and a key
has eight bytes. -/
theorem NetworkAction.Validated.args {number key : Value} {ok : Bool}
    (h : Validated (.setNetworkKey number key ok)) :
    ∃ i k, number = .int i ∧ (0 ≤ i ∧ i ≤ 255) ∧ key = .str (NetworkKey.bytes k) := by
  obtain ⟨⟨v, i, hv, rfl⟩, data, bytes, hdata, rfl⟩ := h
  have hi : 0 ≤ i ∧ i ≤ 255 := by
    unfold validateNetworkNumber at hv
    split at hv
    · cases hv
    · split at hv
      · rename_i hrange
        obtain rfl := Except.ok.inj hv
        exact ⟨hrange.1, hrange.2⟩
      · cases hv
  have hlen : bytes.length = 8 := by
    unfold validateNetworkKey at hdata
    split at hdata
    · obtain rfl := Except.ok.inj hdata
      assumption
    · cases hdata
  exact ⟨i, ⟨bytes, hlen⟩, rfl, hi, rfl⟩

/-- Validated arguments arrive: both convert, and the key is long enough. -/
theorem NetworkAction.Validated.call {number key : Value} {ok : Bool}
    (h : Validated (.setNetworkKey number key ok)) :
    rantSSetNetworkKey number key ok = .ok .true := by
  obtain ⟨i, k, rfl, hi, rfl⟩ := h.args
  have hcall : networkKeyCall (.int i) (.str k.bytes) = .ok (UInt8.ofInt i, k) :=
    networkKeyCall_eq_ok_iff.mpr ⟨rfl, i, rfl, by omega, ofInt8_eq_iff.mp rfl⟩
  rw [rantSSetNetworkKey, hcall]
  rfl

/-- No two validated numbers are one network, as there is one for each byte. -/
theorem NetworkAction.Validated.gives_iff {a : NetworkAction} {w : UInt8} {k : NetworkKey}
    (h : a.Validated) : a.Gives w k ↔ a = .setNetworkKey (.int w.toNat) (.str k.bytes) true := by
  have hw : w.toNat < 256 := w.toNat_lt
  constructor
  · rintro ⟨number, i, rfl, hi, -, hmod⟩
    obtain ⟨i', k', rfl, hrange, -⟩ := h.args
    obtain rfl := Except.ok.inj hi
    have heq : (w.toNat : Int) = i' := by omega
    rw [heq]
  · rintro rfl
    exact ⟨_, w.toNat, rfl, rfl, by omega, by omega⟩

/-- With validated arguments the last key for the network is the last one for
the number: each number has a network of its own, and every key arrives. -/
theorem lastGiven_iff_lastSet {as : List NetworkAction} {w : UInt8} {k : NetworkKey}
    (h : ∀ a ∈ as, a.Validated) : LastGiven w k as ↔ LastSet w.toNat k as := by
  have hlater : ∀ b ∈ as, (∀ k', ¬ b.Gives w k') ↔
      ∀ key, b ≠ .setNetworkKey (.int w.toNat) key true := by
    intro b hb
    constructor
    · rintro hnone key rfl
      obtain ⟨i, k', -, -, rfl⟩ := (h _ hb).args
      exact hnone k' ((h _ hb).gives_iff.mpr rfl)
    · intro hnone k' hgives
      exact hnone _ ((h _ hb).gives_iff.mp hgives)
  constructor
  · rintro ⟨l, a, l', rfl, hgives, hrest⟩
    obtain rfl := (h a (by simp)).gives_iff.mp hgives
    exact ⟨l, l', rfl, fun b hb => ⟨(hrest b hb).1, (hlater b (by simp [hb])).mp (hrest b hb).2⟩⟩
  · rintro ⟨l, l', rfl, hrest⟩
    refine ⟨l, _, l', rfl, (h _ (by simp)).gives_iff.mpr rfl, fun b hb => ?_⟩
    exact ⟨(hrest b hb).1, (hlater b (by simp [hb])).mpr (hrest b hb).2⟩

-- ---------------------------------------------------------------------------
-- Runs
-- ---------------------------------------------------------------------------

/-- A number that is free for a channel on its network is free for the channel. -/
theorem FreshNetwork.freshNumber {x : NetworkState} {a : Action}
    (h : FreshNetwork x (.channel a)) : FreshNumber x.chan a := by
  cases a with
  | assignChannel args ok =>
    cases ok with
    | true => exact h.1
    | false => trivial
  | _ => trivial

theorem tuned_init : Tuned init := by
  intro k o ch hk
  cases hk

/-- The keys given to the library are no matter to the channels, and their networks. -/
theorem chan_of_networkStep {x x' : NetworkState} {a : NetworkAction}
    (hs : networkStep x a = some x') :
    x'.chan = x.chan ∨ ∃ b, a = .channel b ∧ step x.chan b = some x'.chan := by
  cases a with
  | setNetworkKey number key ok =>
    rw [networkStep] at hs
    split at hs
    · obtain rfl := Option.some.inj hs
      exact .inl rfl
    · obtain rfl := Option.some.inj hs
      cases ok <;> exact .inl rfl
  | channel b =>
    obtain ⟨⟨calls, s⟩, hp, rfl⟩ := Option.map_eq_some_iff.mp hs
    exact .inr ⟨b, rfl, by rw [step, hp]; rfl⟩

/-- **Run.** Registered channels are alone with their numbers, and on the
networks that their attributes name. -/
theorem tuned_exec {as : List NetworkAction} {x : NetworkState}
    (hrun : Lts.Exec networkStep FreshNetwork networkInit as x) :
    Keyed x.chan ∧ Sole x.chan ∧ Tuned x.chan := by
  refine hrun.invariant (I := fun x => Keyed x.chan ∧ Sole x.chan ∧ Tuned x.chan) ?_
    ⟨keyed_init, sole_init, tuned_init⟩
  rintro x a x' ⟨hkey, hsole, htuned⟩ hfresh hs
  rcases chan_of_networkStep hs with hsame | ⟨b, rfl, hstep⟩
  · rw [hsame]
    exact ⟨hkey, hsole, htuned⟩
  · exact ⟨keyed_step hkey hstep, sole_step hkey hsole hfresh.freshNumber hstep,
      tuned_step hkey hsole htuned hfresh hstep⟩

/-- A channel on network 1, and keys for 1 and for 257. -/
def keyedRun (k k' : NetworkKey) : List NetworkAction :=
  [.setNetworkKey (.int 1) (.str k.bytes) true,
    .channel (.assignChannel ⟨.int 3, .int 0, .int 1, .nil, .nil⟩ true),
    .setNetworkKey (.int 257) (.str k'.bytes) true]

end AntWireless.Channel
