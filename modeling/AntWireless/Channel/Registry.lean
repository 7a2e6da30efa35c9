import AntWireless.Channel.Model
import AntWireless.Lib.Except

/-!
# AntWireless — what a step does to the heap, the registry and the library

* `Change`, `change_of_step` — everything a step can do.
* `Keyed` — in every reachable state a registered object exists, under one key, whose
  conversion is the object's number; and the library holds no pointer into the buffer
  of a freed object.
-/

namespace AntWireless.Channel

-- ---------------------------------------------------------------------------
-- What a step can do
-- ---------------------------------------------------------------------------

/-- What is found after a registration is the object registered, under its
key, or was there before under another one. -/
theorem lookup_insert_cases {m : AList fun _ : Value => ObjId} {k k' : Value} {o p : ObjId}
    (h : (m.insert k p).lookup k' = some o) : k' = k ∧ o = p ∨ k' ≠ k ∧ m.lookup k' = some o := by
  by_cases hk : k' = k
  · subst hk
    rw [AList.lookup_insert, Option.some.injEq] at h
    exact .inl ⟨rfl, h.symm⟩
  · rw [AList.lookup_insert_ne hk] at h
    exact .inr ⟨hk, h⟩

/-- What is found after a close was there before, under another key. -/
theorem lookup_erase_some {m : AList fun _ : Value => ObjId} {k k' : Value} {o : ObjId}
    (h : (m.erase k).lookup k' = some o) : k' ≠ k ∧ m.lookup k' = some o := by
  by_cases hk : k' = k
  · subst hk
    rw [AList.lookup_erase] at h
    cases h
  · rw [AList.lookup_erase_ne hk] at h
    exact ⟨hk, h⟩

/-- Looking something up after an entry was written or removed. -/
theorem update_cases {α β : Type} [DecidableEq α] {f : α → Option β} {x y : α} {v : Option β}
    {z : β} (h : Function.update f x v y = some z) :
    y = x ∧ v = some z ∨ y ≠ x ∧ f y = some z := by
  by_cases hy : y = x
  · subst hy
    rw [Function.update_self] at h
    exact .inl ⟨rfl, h⟩
  · rw [Function.update_of_ne hy] at h
    exact .inr ⟨hy, h⟩

/-- What was not written was there before: the form for a step that writes
something else. -/
theorem of_update {α β : Type} [DecidableEq α] {f : α → Option β} {x y : α} {v : Option β}
    {z : β} (h : Function.update f x v y = some z) (hv : v ≠ some z) : y ≠ x ∧ f y = some z := by
  rcases update_cases h with ⟨-, hwritten⟩ | hold
  · exact absurd hwritten hv
  · exact hold

/-- The action raises before its library call, or the call fails. -/
def Rejected : Action → Prop
  | .assignChannel a ok => ok = false ∨ ∃ e, assignCall a = .error e
  | .close _ timeout ok => ok = false ∨ ∃ e, optionalUint timeout = .error e
  | .onEvent _ block => block = none
  | .reset | .antClose | .gc _ => False

/-- The changes a step from `s` to `s'` can make. -/
inductive Change (s s' : State) : Action → Prop
  | unchanged (a : Action) (ha : Rejected a) (heq : s' = s) : Change s s' a
  | assigned (a : AssignArgs) (c : LibraryCall) (u : UInt16) (hc : assignCall a = .ok c)
      (hu : num2ushort a.channel = .ok u) (hn : c.channel = some u.toUInt8)
      (hobj : s'.objects = Function.update s.objects s.nextId (some (initialized a u)))
      (hid : s'.nextId = s.nextId + 1)
      (hreg : s'.registry = s.registry.insert a.channel s.nextId)
      (has : s'.library.assignment =
        Function.update s.library.assignment u.toUInt8 c.assignment)
      (hfn : s'.library.eventFn = s.library.eventFn) :
      Change s s' (.assignChannel a true)
  -- assigned on the hardware, but `initialize` raised
  | abandoned (a : AssignArgs) (c : LibraryCall) (e : RubyError) (n : UInt8)
      (hc : assignCall a = .ok c) (he : num2ushort a.channel = .error e)
      (hn : c.channel = some n)
      (hobj : s'.objects = Function.update s.objects s.nextId (some rantChannelAlloc))
      (hid : s'.nextId = s.nextId + 1) (hreg : s'.registry = s.registry)
      (has : s'.library.assignment = Function.update s.library.assignment n c.assignment)
      (hfn : s'.library.eventFn = s.library.eventFn) :
      Change s s' (.assignChannel a true)
  | closed (o : ObjId) (ch : ChannelObject) (timeout : Value) (t : UInt32)
      (ht : optionalUint timeout = .ok t) (ho : s.objects o = some ch)
      (hobj : s'.objects = s.objects) (hid : s'.nextId = s.nextId)
      (hreg : s'.registry = s.registry.erase (int2fix ch.channelNum))
      (hlib : s'.library = s.library) :
      Change s s' (.close o timeout true)
  | cleared (a : Action) (ha : a = .reset ∨ a = .antClose)
      (hobj : s'.objects = s.objects) (hid : s'.nextId = s.nextId) (hreg : s'.registry = ∅)
      (has : s'.library.assignment = fun _ => none)
      (hfn : s'.library.eventFn = s.library.eventFn) :
      Change s s' a
  | blockSet (o : ObjId) (ch : ChannelObject) (b : Block) (ho : s.objects o = some ch)
      (hobj : s'.objects = Function.update s.objects o (some { ch with callback := some b }))
      (hid : s'.nextId = s.nextId) (hreg : s'.registry = s.registry)
      (has : s'.library.assignment = s.library.assignment)
      (hfn : s'.library.eventFn =
        Function.update s.library.eventFn ch.channelNum (some o)) :
      Change s s' (.onEvent o (some b))
  | freed (o : ObjId) (ch : ChannelObject) (ho : s.objects o = some ch)
      (hr : s.registered o = false)
      (hobj : s'.objects = Function.update s.objects o none)
      (hid : s'.nextId = s.nextId) (hreg : s'.registry = s.registry)
      (has : s'.library.assignment =
        Function.update s.library.assignment ch.channelNum none)
      (hfn : s'.library.eventFn = Function.update s.library.eventFn ch.channelNum none) :
      Change s s' (.gc o)

/-- The library is told the number that `NUM2CHR` reads from the argument. -/
theorem assignCall_eq_ok {a : AssignArgs} {c : LibraryCall} (h : assignCall a = .ok c) :
    ∃ n t e x r, c = .assignChannelExtRTO n t e x r ∧ num2chr a.channel = .ok n := by
  simp only [assignCall, bind, pure, Except.pure, Except.bind_eq_ok_iff, Except.ok.injEq] at h
  obtain ⟨n, hn, t, -, w, -, x, -, r, -, rfl⟩ := h
  exact ⟨n, t, w, x, r, rfl, hn⟩

/-- A call of `Ant.assign_channel` is rejected, registers a new object, or is
abandoned with the number assigned and the new object left without one. -/
theorem change_of_assign (s : State) (a : AssignArgs) (ok : Bool) :
    Change s (rantSAssignChannel s a ok).state (.assignChannel a ok) := by
  unfold rantSAssignChannel
  cases hc : assignCall a with
  | error e => exact .unchanged _ (.inr ⟨e, hc⟩) rfl
  | ok c =>
    obtain ⟨n, t, e, x, r, rfl, hn⟩ := assignCall_eq_ok hc
    cases ok with
    | false => exact .unchanged _ (.inl rfl) rfl
    | true =>
      simp only [if_true, newInstance, rantChannelInit]
      cases hu : num2ushort a.channel with
      | error e => exact .abandoned a _ e n hc hu rfl rfl rfl rfl rfl rfl
      | ok u =>
        obtain rfl := num2chr_of_num2ushort hu hn
        refine .assigned a _ u hc hu rfl ?_ rfl rfl rfl rfl
        exact Function.update_idem ..

/-- **Inversion.** Every step is one of the changes, with everything it
writes. The invariants below are shown of the changes, and look into no
operation. -/
theorem change_of_step {s s' : State} {a : Action} (h : step s a = some s') : Change s s' a := by
  obtain ⟨⟨calls, s''⟩, hp, rfl⟩ := Option.map_eq_some_iff.mp h
  cases a with
  | assignChannel a ok =>
    rw [perform, Option.some.injEq, Prod.mk.injEq] at hp
    exact hp.2 ▸ change_of_assign _ _ _
  | close o timeout ok =>
    obtain ⟨ch, ho, heq⟩ := Option.map_eq_some_iff.mp hp
    rw [Prod.mk.injEq] at heq
    obtain ⟨-, rfl⟩ := heq
    unfold rantChannelClose
    split
    · rename_i e he
      exact .unchanged _ (.inr ⟨e, he⟩) rfl
    · cases ok with
      | false => exact .unchanged _ (.inl rfl) rfl
      | true => exact .closed o ch timeout _ (by assumption) ho rfl rfl rfl rfl
  | reset =>
    rw [perform, Option.some.injEq, Prod.mk.injEq] at hp
    exact hp.2 ▸ .cleared _ (.inl rfl) rfl rfl rfl rfl rfl
  | antClose =>
    rw [perform, Option.some.injEq, Prod.mk.injEq] at hp
    exact hp.2 ▸ .cleared _ (.inr rfl) rfl rfl rfl rfl rfl
  | onEvent o block =>
    obtain ⟨ch, ho, heq⟩ := Option.map_eq_some_iff.mp hp
    rw [Prod.mk.injEq] at heq
    obtain ⟨-, rfl⟩ := heq
    cases block with
    | none => exact .unchanged _ rfl rfl
    | some b => exact .blockSet o ch b ho rfl rfl rfl rfl rfl
  | gc o =>
    rw [perform] at hp
    split at hp
    · cases hp
    · rename_i hr
      obtain ⟨ch, ho, heq⟩ := Option.map_eq_some_iff.mp hp
      rw [Prod.mk.injEq] at heq
      obtain ⟨-, rfl⟩ := heq
      exact .freed o ch ho (by simpa using hr) rfl rfl rfl rfl rfl

-- ---------------------------------------------------------------------------
-- Frames
-- ---------------------------------------------------------------------------

section Frames

variable {s s' : State} {a : Action}

/-- An object of the new state is new and has no block, or is an old one with
its number, its buffer, its attributes and its block, unless the step set the
block. -/
theorem Change.object_old {p : ObjId} {ch' : ChannelObject} (h : Change s s' a)
    (hp : s'.objects p = some ch') :
    (∃ ch, s.objects p = some ch ∧ ch'.channelNum = ch.channelNum ∧ ch'.buffer = ch.buffer ∧
      ch'.ivars = ch.ivars ∧ (ch'.callback = ch.callback ∨
        ∃ b, a = .onEvent p (some b) ∧ ch'.callback = some b)) ∨
    p = s.nextId ∧ s'.nextId = s.nextId + 1 ∧ ch'.callback = none := by
  cases h with
  | unchanged a ha heq => exact .inl ⟨ch', heq ▸ hp, rfl, rfl, rfl, .inl rfl⟩
  | assigned a c u hc hu hn hobj hid hreg has hfn =>
    rw [hobj] at hp
    rcases update_cases hp with ⟨rfl, hch⟩ | ⟨-, hp⟩
    · rw [Option.some.injEq] at hch
      exact .inr ⟨rfl, hid, by rw [← hch]; rfl⟩
    · exact .inl ⟨ch', hp, rfl, rfl, rfl, .inl rfl⟩
  | abandoned a c e n hc he hn hobj hid hreg has hfn =>
    rw [hobj] at hp
    rcases update_cases hp with ⟨rfl, hch⟩ | ⟨-, hp⟩
    · rw [Option.some.injEq] at hch
      exact .inr ⟨rfl, hid, by rw [← hch]; rfl⟩
    · exact .inl ⟨ch', hp, rfl, rfl, rfl, .inl rfl⟩
  | closed o ch timeout t ht ho hobj hid hreg hlib =>
    exact .inl ⟨ch', hobj ▸ hp, rfl, rfl, rfl, .inl rfl⟩
  | cleared a ha hobj hid hreg has hfn => exact .inl ⟨ch', hobj ▸ hp, rfl, rfl, rfl, .inl rfl⟩
  | blockSet o ch b ho hobj hid hreg has hfn =>
    rw [hobj] at hp
    rcases update_cases hp with ⟨rfl, hch⟩ | ⟨-, hp⟩
    · rw [Option.some.injEq] at hch
      subst hch
      exact .inl ⟨ch, ho, rfl, rfl, rfl, .inr ⟨b, rfl, rfl⟩⟩
    · exact .inl ⟨ch', hp, rfl, rfl, rfl, .inl rfl⟩
  | freed o ch ho hr hobj hid hreg has hfn =>
    rw [hobj] at hp
    obtain ⟨-, hp⟩ := of_update hp (by simp)
    exact .inl ⟨ch', hp, rfl, rfl, rfl, .inl rfl⟩

/-- Identities are given out in order, and none comes back. -/
theorem Change.nextId_le (h : Change s s' a) : s.nextId ≤ s'.nextId := by
  cases h with
  | unchanged a ha heq => exact heq ▸ le_rfl
  | assigned a c u hc hu hn hobj hid => exact hid ▸ Nat.le_succ _
  | abandoned a c e n hc he hn hobj hid => exact hid ▸ Nat.le_succ _
  | closed o ch timeout t ht ho hobj hid => exact hid ▸ le_rfl
  | cleared a ha hobj hid => exact hid ▸ le_rfl
  | blockSet o ch b ho hobj hid => exact hid ▸ le_rfl
  | freed o ch ho hr hobj hid => exact hid ▸ le_rfl

/-- An old object stays, with its number, its buffer and its block, if it has
one, unless it is collected. Only the collector frees, and only the object it
names. -/
theorem Change.object_kept {p : ObjId} {ch : ChannelObject} (h : Change s s' a)
    (hfresh : ∀ o ch, s.objects o = some ch → o < s.nextId) (hp : s.objects p = some ch) :
    (∃ ch', s'.objects p = some ch' ∧ ch'.channelNum = ch.channelNum ∧ ch'.buffer = ch.buffer ∧
      (ch.callback ≠ none → ch'.callback ≠ none)) ∨
    a = .gc p := by
  have hne : p ≠ s.nextId := Nat.ne_of_lt (hfresh p ch hp)
  cases h with
  | unchanged a ha heq => exact .inl ⟨ch, heq ▸ hp, rfl, rfl, id⟩
  | assigned a c u hc hu hn hobj hid hreg has hfn =>
    exact .inl ⟨ch, by rw [hobj, Function.update_of_ne hne, hp], rfl, rfl, id⟩
  | abandoned a c e n hc he hn hobj hid hreg has hfn =>
    exact .inl ⟨ch, by rw [hobj, Function.update_of_ne hne, hp], rfl, rfl, id⟩
  | closed o ch timeout t ht ho hobj hid hreg hlib => exact .inl ⟨_, hobj ▸ hp, rfl, rfl, id⟩
  | cleared a ha hobj hid hreg has hfn => exact .inl ⟨_, hobj ▸ hp, rfl, rfl, id⟩
  | blockSet o ch₀ b ho hobj hid hreg has hfn =>
    by_cases hpo : p = o
    · subst hpo
      rw [ho, Option.some.injEq] at hp
      exact .inl ⟨_, by rw [hobj, Function.update_self], by rw [← hp], by rw [← hp],
        fun _ => by simp⟩
    · exact .inl ⟨ch, by rw [hobj, Function.update_of_ne hpo, hp], rfl, rfl, id⟩
  | freed o ch₀ ho hr hobj hid hreg has hfn =>
    by_cases hpo : p = o
    · exact .inr (by rw [hpo])
    · exact .inl ⟨ch, by rw [hobj, Function.update_of_ne hpo, hp], rfl, rfl, id⟩

/-- A registry entry of the new state is an old one, or that of the object
just assigned: its key is the argument, of which both conversions give the
object's number. -/
theorem Change.entry_old {k : Value} {o : ObjId} (h : Change s s' a)
    (hk : s'.registry.lookup k = some o) :
    s.registry.lookup k = some o ∨
      ∃ args u, a = .assignChannel args true ∧ k = args.channel ∧ o = s.nextId ∧
        num2ushort k = .ok u ∧ num2chr k = .ok u.toUInt8 ∧
        s'.objects o = some (initialized args u) := by
  cases h with
  | unchanged a ha heq => exact .inl (heq ▸ hk)
  | assigned args c u hc hu hn hobj hid hreg has hfn =>
    rw [hreg] at hk
    rcases lookup_insert_cases hk with ⟨rfl, rfl⟩ | ⟨-, hk⟩
    · obtain ⟨n, t, e, x, r, rfl, hchr⟩ := assignCall_eq_ok hc
      rw [LibraryCall.channel, Option.some.injEq] at hn
      refine .inr ⟨args, u, rfl, rfl, rfl, hu, hn ▸ hchr, ?_⟩
      rw [hobj, Function.update_self]
    · exact .inl hk
  | abandoned args c e n hc he hn hobj hid hreg has hfn => exact .inl (hreg ▸ hk)
  | closed o' ch timeout t ht ho hobj hid hreg hlib =>
    rw [hreg] at hk
    exact .inl (lookup_erase_some hk).2
  | cleared a ha hobj hid hreg has hfn =>
    rw [hreg] at hk
    cases hk
  | blockSet o' ch b ho hobj hid hreg has hfn => exact .inl (hreg ▸ hk)
  | freed o' ch ho hr hobj hid hreg has hfn => exact .inl (hreg ▸ hk)

/-- A pointer the library holds in the new state is an old one, or that of the
object whose block was just set, for the number of that object. What the
collector frees takes the pointer for its number along. -/
theorem Change.pointer_old {n : UInt8} {o : ObjId} (h : Change s s' a)
    (hn : s'.library.eventFn n = some o) :
    s.library.eventFn n = some o ∧ (∀ p ch, a = .gc p → s.objects p = some ch →
        ch.channelNum ≠ n) ∨
      ∃ b ch, a = .onEvent o (some b) ∧ s.objects o = some ch ∧ ch.channelNum = n ∧
        s'.objects o = some { ch with callback := some b } := by
  cases h with
  | unchanged a ha heq =>
    refine .inl ⟨heq ▸ hn, ?_⟩
    rintro p ch rfl
    exact False.elim ha
  | assigned args c u hc hu hch hobj hid hreg has hfn =>
    exact .inl ⟨hfn ▸ hn, fun _ _ hgc => nomatch hgc⟩
  | abandoned args c e m hc he hch hobj hid hreg has hfn =>
    exact .inl ⟨hfn ▸ hn, fun _ _ hgc => nomatch hgc⟩
  | closed o' ch timeout t ht ho hobj hid hreg hlib =>
    exact .inl ⟨hlib ▸ hn, fun _ _ hgc => nomatch hgc⟩
  | cleared a ha hobj hid hreg has hfn =>
    refine .inl ⟨hfn ▸ hn, ?_⟩
    rcases ha with rfl | rfl <;> exact fun _ _ hgc => nomatch hgc
  | blockSet o' ch b ho hobj hid hreg has hfn =>
    rw [hfn] at hn
    by_cases hm : n = ch.channelNum
    · subst hm
      rw [Function.update_self, Option.some.injEq] at hn
      subst hn
      exact .inr ⟨b, ch, rfl, ho, rfl, by rw [hobj, Function.update_self]⟩
    · rw [Function.update_of_ne hm] at hn
      exact .inl ⟨hn, fun _ _ hgc => nomatch hgc⟩
  | freed o' ch ho hr hobj hid hreg has hfn =>
    rw [hfn] at hn
    by_cases hm : n = ch.channelNum
    · subst hm
      rw [Function.update_self] at hn
      cases hn
    · rw [Function.update_of_ne hm] at hn
      refine .inl ⟨hn, ?_⟩
      rintro p ch' ⟨rfl⟩ hp
      rw [ho, Option.some.injEq] at hp
      rw [← hp]
      exact Ne.symm hm

/-- `on_event` with a block: the object has the block, and the library points
to the object's buffer for the object's number. -/
theorem Change.of_onEvent {o : ObjId} {b : Block} (h : Change s s' (.onEvent o (some b))) :
    ∃ ch, s.objects o = some ch ∧
      s'.objects = Function.update s.objects o (some { ch with callback := some b }) ∧
      s'.registry = s.registry ∧
      s'.library.eventFn = Function.update s.library.eventFn ch.channelNum (some o) := by
  cases h with
  | unchanged a ha heq => cases ha
  | cleared a ha => rcases ha with ha | ha <;> cases ha
  | blockSet o ch b ho hobj hid hreg has hfn => exact ⟨ch, ho, hobj, hreg, hfn⟩

end Frames

-- ---------------------------------------------------------------------------
-- The invariant
-- ---------------------------------------------------------------------------

/-- What every reachable state has: object identities are used once; a
registered object exists and is registered under one key, whose conversions
are its number; and the library points into the buffers of objects that exist,
carry the number and have a block. -/
structure Keyed (s : State) : Prop where
  fresh : ∀ o ch, s.objects o = some ch → o < s.nextId
  entry : ∀ k o, s.registry.lookup k = some o → ∃ ch u, s.objects o = some ch ∧
    num2ushort k = .ok u ∧ num2chr k = .ok u.toUInt8 ∧ ch.channelNum = u.toUInt8
  oneKey : ∀ k k' o, s.registry.lookup k = some o → s.registry.lookup k' = some o → k = k'
  pointer : ∀ n o, s.library.eventFn n = some o → ∃ ch, s.objects o = some ch ∧
    ch.channelNum = n ∧ ch.callback ≠ none

theorem keyed_init : Keyed init where
  fresh _ _ h := nomatch h
  entry _ _ h := nomatch h
  oneKey _ _ _ h := nomatch h
  pointer _ _ h := nomatch h

section Invariant

variable {s s' : State} {a : Action}

/-- A registered object is not the one that is about to be made. -/
theorem Keyed.ne_nextId (h : Keyed s) {k : Value} {o : ObjId}
    (hk : s.registry.lookup k = some o) : o ≠ s.nextId := by
  obtain ⟨ch, -, ho, -⟩ := h.entry k o hk
  exact Nat.ne_of_lt (h.fresh o ch ho)

/-- The collector takes no registered object: the registry is a root. -/
theorem Change.registered_kept {k : Value} {o : ObjId} (h : Change s s' a)
    (hk : s.registry.lookup k = some o) : a ≠ .gc o := by
  rintro rfl
  cases h with
  | unchanged a ha heq => exact ha
  | cleared a ha => rcases ha with ha | ha <;> cases ha
  | freed o ch ho hr hobj hid hreg has hfn =>
    rw [State.registered_iff.mpr ⟨k, hk⟩] at hr
    cases hr

/-- **Step.** A new object takes an identity that was not used; what is
registered has just been given its number; a pointer goes to an object that
exists when it is set, and goes with it. -/
theorem keyed_step (h : Keyed s) (hs : step s a = some s') : Keyed s' := by
  have hch := change_of_step hs
  constructor
  · intro o ch' ho
    rcases hch.object_old ho with ⟨ch, ho, -⟩ | ⟨rfl, hid, -⟩
    · exact Nat.lt_of_lt_of_le (h.fresh o ch ho) hch.nextId_le
    · rw [hid]
      exact Nat.lt_succ_self _
  · intro k o hk
    rcases hch.entry_old hk with hk | ⟨args, u, -, rfl, -, hu, hchr, ho⟩
    · obtain ⟨ch, u, ho, hu, hchr, hnum⟩ := h.entry k o hk
      rcases hch.object_kept h.fresh ho with ⟨ch', ho', hnum', -⟩ | hgc
      · exact ⟨ch', u, ho', hu, hchr, hnum'.trans hnum⟩
      · exact absurd hgc (hch.registered_kept hk)
    · exact ⟨_, u, ho, hu, hchr, rfl⟩
  · intro k k' o hk hk'
    rcases hch.entry_old hk with hk | ⟨args, -, ha, rfl, rfl, -⟩
    · rcases hch.entry_old hk' with hk' | ⟨-, -, -, -, rfl, -⟩
      · exact h.oneKey k k' o hk hk'
      · exact absurd rfl (h.ne_nextId hk)
    · rcases hch.entry_old hk' with hk' | ⟨args', -, ha', rfl, -⟩
      · exact absurd rfl (h.ne_nextId hk')
      · cases ha.symm.trans ha'
        rfl
  · intro n o hn
    rcases hch.pointer_old hn with ⟨hn, hgc⟩ | ⟨b, ch, -, ho, hnum, ho'⟩
    · obtain ⟨ch, ho, hnum, hcb⟩ := h.pointer n o hn
      rcases hch.object_kept h.fresh ho with ⟨ch', ho', hnum', -, hcb'⟩ | rfl
      · exact ⟨ch', ho', hnum'.trans hnum, hcb' hcb⟩
      · exact absurd hnum (hgc o ch rfl ho)
    · exact ⟨_, ho', hnum, by simp⟩

/-- **Run.** Every state of every run is keyed, whatever the program does. -/
theorem keyed_exec {G : State → Action → Prop} {as : List Action}
    (hrun : Lts.Exec step G init as s) : Keyed s :=
  hrun.invariant (fun _ _ _ h _ hs => keyed_step h hs) keyed_init

end Invariant

end AntWireless.Channel
