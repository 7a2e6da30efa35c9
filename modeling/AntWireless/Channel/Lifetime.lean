import AntWireless.Channel.Registry

/-!
# AntWireless — collected channel objects and live ones

`rant_channel_free` unregisters the event function of its object's channel number and
unassigns the number, whoever holds it by then. The number of an object that has left
the registry can be assigned again, and an object whose `initialize` raised carries the
number 0.

* `FreshNumber` — the condition on `Ant.assign_channel` under which no two objects that
  matter carry one number.
* `free_harmless` — under it, a free never names the number of a registered object, and
  an open object keeps its assignment and its event function.
* `reassigned_harms` — wherever it fails, some continuation frees a live channel.
-/

namespace AntWireless.Channel

/-- After a library call that succeeded: `initialize` is given a number that
no uncollected object carries; or it raises, and no registered object carries
0. -/
def FreshFor (s : State) :
    Except RubyError LibraryCall → Except RubyError UInt16 → Prop
  | .error _, _ => True
  | .ok _, .ok u => ∀ p, p < s.nextId → s.numberOf p ≠ some u.toUInt8
  | .ok _, .error _ => ∀ e ∈ s.registry.entries, s.numberOf e.2 ≠ some 0

instance (s : State) : ∀ c u, Decidable (FreshFor s c u)
  | .error _, _ => inferInstanceAs (Decidable True)
  | .ok _, .ok u => inferInstanceAs (Decidable (∀ p, p < s.nextId → s.numberOf p ≠ some u.toUInt8))
  | .ok _, .error _ =>
    inferInstanceAs (Decidable (∀ e ∈ s.registry.entries, s.numberOf e.2 ≠ some 0))

/-- `Ant.assign_channel` does not use a number again that an object still carries. -/
def FreshNumber (s : State) : Action → Prop
  | .assignChannel a true => FreshFor s (assignCall a) (num2ushort a.channel)
  | _ => True

instance (s : State) : ∀ a, Decidable (FreshNumber s a)
  | .assignChannel a true =>
    inferInstanceAs (Decidable (FreshFor s (assignCall a) (num2ushort a.channel)))
  | .assignChannel _ false | .close .. | .reset | .antClose | .onEvent .. | .gc _ =>
    inferInstanceAs (Decidable True)

/-- Whatever the collector frees, no library call of it names the number of a
registered object; and an object that is not closed has its assignment and its
event function. -/
structure Harmless (s : State) : Prop where
  free : ∀ o ch, s.objects o = some ch → s.registered o = false →
    ∀ c ∈ (rantChannelFree s o ch.toRantChannel).calls,
    ∀ k p ch', s.registry.lookup k = some p → s.objects p = some ch' →
      c.channel ≠ some ch'.channelNum
  kept : ∀ o ch, s.objects o = some ch → rantChannelClosedP s o ch.toRantChannel = false →
    s.library.assigned ch.channelNum = true ∧
      (ch.callback ≠ none → s.library.eventFn ch.channelNum = some o)

-- ---------------------------------------------------------------------------
-- The invariant
-- ---------------------------------------------------------------------------

/-- Registered objects are the only ones to carry their number, and have what
the library gave them. -/
structure Sole (s : State) : Prop where
  sole : ∀ k o ch p ch', s.registry.lookup k = some o → s.objects o = some ch →
    s.objects p = some ch' → p ≠ o → ch'.channelNum ≠ ch.channelNum
  assigned : ∀ k o ch, s.registry.lookup k = some o → s.objects o = some ch →
    s.library.assigned ch.channelNum = true
  eventFn : ∀ k o ch, s.registry.lookup k = some o → s.objects o = some ch →
    ch.callback ≠ none → s.library.eventFn ch.channelNum = some o

theorem sole_init : Sole init where
  sole _ _ _ _ _ h := nomatch h
  assigned _ _ _ h := nomatch h
  eventFn _ _ _ h := nomatch h

section Steps

variable {s s' : State}

/-- A new object is registered under a number that nobody carries: it is the
only one to carry it, the library has assigned the number, and no event
function is due as the object has no block. -/
theorem sole_assigned {a : AssignArgs} {u : UInt16} (hkey : Keyed s) (h : Sole s)
    (hfree : ∀ p ch, s.objects p = some ch → ch.channelNum ≠ u.toUInt8)
    (hobj : s'.objects = Function.update s.objects s.nextId (some (initialized a u)))
    (hreg : s'.registry = s.registry.insert a.channel s.nextId)
    (has : s'.library.assigned = Function.update s.library.assigned u.toUInt8 true)
    (hfn : s'.library.eventFn = s.library.eventFn) : Sole s' := by
  constructor
  · intro k o ch p ch' hk ho hp hne
    rw [hreg] at hk
    rw [hobj] at ho hp
    rcases lookup_insert_cases hk with ⟨rfl, rfl⟩ | ⟨-, hk⟩
    · rw [Function.update_self, Option.some.injEq] at ho
      rw [Function.update_of_ne hne] at hp
      rw [← ho]
      exact hfree p ch' hp
    · rw [Function.update_of_ne (hkey.ne_nextId hk)] at ho
      rcases update_cases hp with ⟨rfl, hch'⟩ | ⟨-, hp⟩
      · rw [Option.some.injEq] at hch'
        rw [← hch']
        exact fun e => hfree o ch ho e.symm
      · exact h.sole k o ch p ch' hk ho hp hne
  · intro k o ch hk ho
    rw [hreg] at hk
    rw [hobj] at ho
    rw [has]
    rcases lookup_insert_cases hk with ⟨rfl, rfl⟩ | ⟨-, hk⟩
    · rw [Function.update_self, Option.some.injEq] at ho
      rw [← ho]
      exact Function.update_self ..
    · rw [Function.update_of_ne (hkey.ne_nextId hk)] at ho
      rw [Function.update_of_ne (hfree o ch ho)]
      exact h.assigned k o ch hk ho
  · intro k o ch hk ho hcb
    rw [hreg] at hk
    rw [hobj] at ho
    rw [hfn]
    rcases lookup_insert_cases hk with ⟨rfl, rfl⟩ | ⟨-, hk⟩
    · rw [Function.update_self, Option.some.injEq] at ho
      exact absurd (ho ▸ rfl) hcb
    · rw [Function.update_of_ne (hkey.ne_nextId hk)] at ho
      exact h.eventFn k o ch hk ho hcb

/-- The library has assigned a number and `initialize` has raised. The object
left behind carries 0, from `rant_channel_alloc`, so no registered object may
carry that. -/
theorem sole_abandoned {n : UInt8} (hkey : Keyed s) (h : Sole s)
    (hzero : ∀ k p ch, s.registry.lookup k = some p → s.objects p = some ch →
      ch.channelNum ≠ 0)
    (hobj : s'.objects = Function.update s.objects s.nextId (some rantChannelAlloc))
    (hreg : s'.registry = s.registry)
    (has : s'.library.assigned = Function.update s.library.assigned n true)
    (hfn : s'.library.eventFn = s.library.eventFn) : Sole s' := by
  constructor
  · intro k o ch p ch' hk ho hp hne
    rw [hreg] at hk
    rw [hobj] at ho hp
    rw [Function.update_of_ne (hkey.ne_nextId hk)] at ho
    rcases update_cases hp with ⟨rfl, hch'⟩ | ⟨-, hp⟩
    · -- the new object carries 0, which no registered one does
      rw [Option.some.injEq] at hch'
      rw [← hch']
      exact fun e => hzero k o ch hk ho e.symm
    · exact h.sole k o ch p ch' hk ho hp hne
  · intro k o ch hk ho
    rw [hreg] at hk
    rw [hobj, Function.update_of_ne (hkey.ne_nextId hk)] at ho
    rw [has]
    by_cases hn : ch.channelNum = n
    · subst hn
      exact Function.update_self ..
    · rw [Function.update_of_ne hn]
      exact h.assigned k o ch hk ho
  · intro k o ch hk ho
    rw [hreg] at hk
    rw [hobj, Function.update_of_ne (hkey.ne_nextId hk)] at ho
    rw [hfn]
    exact h.eventFn k o ch hk ho

/-- A close, a reset or `Ant.close` only takes entries away. Where the library
forgets its assignments, no entry is left that would need one. -/
theorem sole_unregister (h : Sole s) (hobj : s'.objects = s.objects)
    (hreg : ∀ k o, s'.registry.lookup k = some o →
      s.registry.lookup k = some o ∧ s'.library = s.library) : Sole s' := by
  constructor
  · intro k o ch p ch' hk
    rw [hobj]
    exact h.sole k o ch p ch' (hreg k o hk).1
  · intro k o ch hk
    rw [hobj, (hreg k o hk).2]
    exact h.assigned k o ch (hreg k o hk).1
  · intro k o ch hk
    rw [hobj, (hreg k o hk).2]
    exact h.eventFn k o ch (hreg k o hk).1

/-- `on_event` sets the event function of a number to the object it is called
on. A registered object with that number is this object itself, as it is the
only one to carry it. -/
theorem sole_blockSet {o : ObjId} {ch : ChannelObject} {b : Block} (h : Sole s)
    (ho : s.objects o = some ch)
    (hobj : s'.objects = Function.update s.objects o (some { ch with callback := some b }))
    (hreg : s'.registry = s.registry)
    (has : s'.library.assignment = s.library.assignment)
    (hfn : s'.library.eventFn = Function.update s.library.eventFn ch.channelNum (some o)) :
    Sole s' := by
  -- every object keeps its number
  have hnum : ∀ p ch', s'.objects p = some ch' → ∃ ch₀, s.objects p = some ch₀ ∧
      ch₀.channelNum = ch'.channelNum ∧ (p = o ∨ ch₀ = ch') := by
    intro p ch' hp
    rw [hobj] at hp
    rcases update_cases hp with ⟨rfl, hch'⟩ | ⟨-, hp⟩
    · rw [Option.some.injEq] at hch'
      exact ⟨ch, ho, by rw [← hch'], .inl rfl⟩
    · exact ⟨ch', hp, rfl, .inr rfl⟩
  constructor
  · intro k p ch₁ q ch₂ hk hp hq hne
    rw [hreg] at hk
    obtain ⟨ch₁', hp, hnp, -⟩ := hnum p ch₁ hp
    obtain ⟨ch₂', hq, hnq, -⟩ := hnum q ch₂ hq
    rw [← hnp, ← hnq]
    exact h.sole k p ch₁' q ch₂' hk hp hq hne
  · intro k p ch' hk hp
    rw [hreg] at hk
    obtain ⟨ch₀, hp, hn, -⟩ := hnum p ch' hp
    rw [Library.assigned, has, ← hn]
    exact h.assigned k p ch₀ hk hp
  · intro k p ch' hk hp hcb
    rw [hreg] at hk
    obtain ⟨ch₀, hp₀, hn, hsame⟩ := hnum p ch' hp
    rw [hfn, ← hn]
    by_cases hpo : p = o
    · subst hpo
      rw [ho, Option.some.injEq] at hp₀
      rw [← hp₀, Function.update_self]
    · rw [Function.update_of_ne (Ne.symm (h.sole k p ch₀ o ch hk hp₀ ho (Ne.symm hpo)))]
      obtain rfl := hsame.resolve_left hpo
      exact h.eventFn k p ch₀ hk hp₀ hcb

/-- The collector unassigns the number of an object that is not registered, so
it is no registered object's number. -/
theorem sole_freed {o : ObjId} {ch : ChannelObject} (h : Sole s)
    (ho : s.objects o = some ch) (hr : s.registered o = false)
    (hobj : s'.objects = Function.update s.objects o none) (hreg : s'.registry = s.registry)
    (has : s'.library.assigned = Function.update s.library.assigned ch.channelNum false)
    (hfn : s'.library.eventFn = Function.update s.library.eventFn ch.channelNum none) :
    Sole s' := by
  have hold : ∀ p ch', s'.objects p = some ch' → s.objects p = some ch' := by
    intro p ch' hp
    rw [hobj] at hp
    obtain ⟨-, hp⟩ := of_update hp (by simp)
    exact hp
  -- no registered object carries the freed number
  have hother : ∀ k p ch', s.registry.lookup k = some p → s.objects p = some ch' →
      ch'.channelNum ≠ ch.channelNum := by
    intro k p ch' hk hp e
    have hne : o ≠ p := by
      rintro rfl
      rw [State.registered_iff.mpr ⟨k, hk⟩] at hr
      cases hr
    exact h.sole k p ch' o ch hk hp ho hne e.symm
  constructor
  · intro k p ch₁ q ch₂ hk hp hq
    rw [hreg] at hk
    exact h.sole k p ch₁ q ch₂ hk (hold p ch₁ hp) (hold q ch₂ hq)
  · intro k p ch' hk hp
    rw [hreg] at hk
    rw [has, Function.update_of_ne (hother k p ch' hk (hold p ch' hp))]
    exact h.assigned k p ch' hk (hold p ch' hp)
  · intro k p ch' hk hp hcb
    rw [hreg] at hk
    rw [hfn, Function.update_of_ne (hother k p ch' hk (hold p ch' hp))]
    exact h.eventFn k p ch' hk (hold p ch' hp) hcb

/-- **Step.** Every operation keeps registered objects alone with their
numbers, if `Ant.assign_channel` keeps away from the numbers in use. The cases
are the changes a step can make; the two that assign are where the condition
is needed. -/
theorem sole_step {a : Action} (hkey : Keyed s) (h : Sole s) (hfresh : FreshNumber s a)
    (hs : step s a = some s') : Sole s' := by
  cases change_of_step hs with
  | unchanged a ha heq => exact heq ▸ h
  | assigned a c u hc hu hn hobj hid hreg has hfn =>
    obtain ⟨n, t, w, x, r, rfl, -⟩ := assignCall_eq_ok hc
    simp only [FreshNumber, FreshFor, hc, hu] at hfresh
    refine sole_assigned hkey h (fun p ch hp hnum => ?_) hobj hreg (Library.assigned_update has) hfn
    refine hfresh p (hkey.fresh p ch hp) ?_
    rw [State.numberOf, hp, ← hnum]
    rfl
  | abandoned a c e n hc he hn hobj hid hreg has hfn =>
    obtain ⟨m, t, w, x, r, rfl, -⟩ := assignCall_eq_ok hc
    simp only [FreshNumber, FreshFor, hc, he] at hfresh
    refine sole_abandoned hkey h (fun k p ch hk hp hnum => ?_) hobj hreg
      (Library.assigned_update has) hfn
    refine hfresh ⟨k, p⟩ (AList.mem_lookup_iff.mp hk) ?_
    rw [State.numberOf, hp, ← hnum]
    rfl
  | closed o ch timeout t ht ho hobj hid hreg hlib =>
    refine sole_unregister h hobj fun k p hk => ?_
    rw [hreg] at hk
    exact ⟨(lookup_erase_some hk).2, hlib⟩
  | cleared a ha hobj hid hreg has hfn =>
    refine sole_unregister h hobj fun k p hk => ?_
    rw [hreg] at hk
    cases hk
  | blockSet o ch b ho hobj hid hreg has hfn => exact sole_blockSet h ho hobj hreg has hfn
  | freed o ch ho hr hobj hid hreg has hfn =>
    exact sole_freed h ho hr hobj hreg (Library.assigned_update has) hfn

end Steps

/-- What the collector may free carries another number than every registered object. -/
theorem Sole.harmless {s : State} (h : Sole s) : Harmless s := by
  constructor
  · intro o ch ho hr c hc k p ch' hk hp
    have hpo : o ≠ p := by
      rintro rfl
      rw [State.registered_iff.mpr ⟨k, hk⟩] at hr
      cases hr
    have hch := h.sole k p ch' o ch hk hp ho hpo
    simp only [rantChannelFree, List.mem_cons, List.not_mem_nil, or_false] at hc
    rcases hc with rfl | rfl
    · simpa [LibraryCall.channel] using hch
    · simpa [LibraryCall.channel] using hch
  · intro o ch ho hopen
    have hk : s.registry.lookup (int2fix ch.channelNum) = some o := by
      simpa [rantChannelClosedP] using hopen
    exact ⟨h.assigned _ o ch hk ho, h.eventFn _ o ch hk ho⟩

/-- `Ant.assign_channel( 0, 0 )`. -/
def assignZero : Action := .assignChannel ⟨.int 0, .int 0, .nil, .nil, .nil⟩ true

/-- An object outside the registry carries the number of a registered one: the
collector may take it, and will unassign that number. -/
theorem not_harmless_of_twin {s : State} {k : Value} {o p : ObjId} {ch ch' : ChannelObject}
    (hk : s.registry.lookup k = some o) (ho : s.objects o = some ch)
    (hp : s.objects p = some ch') (hr : s.registered p = false)
    (hnum : ch'.channelNum = ch.channelNum) : ¬ Harmless s := by
  intro h
  refine h.free p ch' hp hr (.unAssignChannel ch'.channelNum) ?_ k o ch hk ho ?_
  · simp [rantChannelFree]
  · rw [LibraryCall.channel, hnum]

theorem not_registered {s : State} {o : ObjId} (h : ∀ k, s.registry.lookup k ≠ some o) :
    s.registered o = false := by
  rw [Bool.eq_false_iff]
  intro hr
  obtain ⟨k, hk⟩ := State.registered_iff.mp hr
  exact h k hk

/-- Assigning a registered object's key again takes the object out of the
registry, where the collector may find it, and leaves everything else where it
is. -/
theorem replace_key {s : State} {k : Value} {p : ObjId} (hkey : Keyed s)
    (hk : s.registry.lookup k = some p) :
    ∃ b s', step s b = some s' ∧ s'.registered p = false ∧
      (∀ q ch, s.objects q = some ch → s'.objects q = some ch) ∧
      ∀ k' q, k' ≠ k → s.registry.lookup k' = some q → s'.registry.lookup k' = some q := by
  obtain ⟨ch, u, -, hu, hchr, -⟩ := hkey.entry k p hk
  let a : AssignArgs := ⟨k, .int 0, .nil, .nil, .nil⟩
  have hc : assignCall a = .ok (.assignChannelExtRTO u.toUInt8 0 0 0 0) := by
    simp only [assignCall, a, hchr]
    rfl
  refine ⟨.assignChannel a true, _, rfl, ?_⟩
  cases change_of_assign s a true with
  | unchanged _ ha heq =>
    rcases ha with ha | ⟨e, he⟩
    · cases ha
    · rw [hc] at he
      cases he
  | abandoned _ c e n _ he => cases hu.symm.trans he
  | cleared _ ha => rcases ha with ha | ha <;> cases ha
  | assigned _ c u' hc' hu' hn hobj hid hreg has hfn =>
    refine ⟨?_, ?_, ?_⟩
    · refine not_registered fun k' hk' => ?_
      rw [hreg] at hk'
      rcases lookup_insert_cases hk' with ⟨-, rfl⟩ | ⟨hne, hk'⟩
      · exact absurd rfl (hkey.ne_nextId hk)
      · exact hne (hkey.oneKey k' k p hk' hk)
    · intro q ch hq
      rw [hobj, Function.update_of_ne (Nat.ne_of_lt (hkey.fresh q ch hq)), hq]
    · intro k' q hne hk'
      rw [hreg, AList.lookup_insert_ne hne, hk']

/-- **No weaker condition will do.** After any assignment that breaks
`FreshNumber` some continuation leaves an object for the collector whose
freeing harms a registered one: at once, or after the other of the two was
registered anew. -/
theorem reassigned_harms {as : List Action} {s s' : State} {a : Action}
    (hrun : Lts.Exec step Lts.Any init as s) (hs : step s a = some s')
    (hbad : ¬ FreshNumber s a) :
    ∃ bs t, Lts.Exec step Lts.Any s' bs t ∧ ¬ Harmless t := by
  have hkey := keyed_exec hrun
  have hkey' := keyed_step hkey hs
  cases change_of_step hs with
  | unchanged a ha heq =>
    cases a with
    | assignChannel args ok =>
      rcases ha with rfl | ⟨e, he⟩
      · exact absurd trivial hbad
      · refine absurd ?_ hbad
        cases ok with
        | false => trivial
        | true => simp only [FreshNumber, FreshFor, he]
    | _ => exact absurd trivial hbad
  | closed | blockSet | freed => exact absurd trivial hbad
  | cleared a ha => rcases ha with rfl | rfl <;> exact absurd trivial hbad
  | abandoned args c e n hc he hn hobj hid hreg has hfn =>
    -- the new object carries 0 and is not registered
    simp only [FreshNumber, FreshFor, hc, he, not_forall, not_not] at hbad
    obtain ⟨⟨k, p⟩, hmem, hzero⟩ := hbad
    have hk : s.registry.lookup k = some p := AList.mem_lookup_iff.mpr hmem
    obtain ⟨ch, hp, hzero⟩ := Option.map_eq_some_iff.mp hzero
    have hk' : s'.registry.lookup k = some p := by rw [hreg, hk]
    have hp' : s'.objects p = some ch := by
      rw [hobj, Function.update_of_ne (hkey.ne_nextId hk), hp]
    have hnew : s'.objects s.nextId = some rantChannelAlloc := by
      rw [hobj, Function.update_self]
    refine ⟨[], s', .nil, not_harmless_of_twin hk' hp' hnew ?_ hzero.symm⟩
    refine not_registered fun k' hk' => ?_
    rw [hreg] at hk'
    exact hkey.ne_nextId hk' rfl
  | assigned args c u hc hu hn hobj hid hreg has hfn =>
    simp only [FreshNumber, FreshFor, hc, hu, not_forall, not_not] at hbad
    obtain ⟨p, -, hnum⟩ := hbad
    obtain ⟨ch, hp, hnum⟩ := Option.map_eq_some_iff.mp hnum
    have hne : p ≠ s.nextId := Nat.ne_of_lt (hkey.fresh p ch hp)
    have hp' : s'.objects p = some ch := by rw [hobj, Function.update_of_ne hne, hp]
    have hk' : s'.registry.lookup args.channel = some s.nextId := by
      rw [hreg, AList.lookup_insert]
    have hnew : s'.objects s.nextId = some (initialized args u) := by
      rw [hobj, Function.update_self]
    cases hr : s'.registered p with
    | false => exact ⟨[], s', .nil, not_harmless_of_twin hk' hnew hp' hr hnum⟩
    | true =>
      -- the old object has another key: assign that one again
      obtain ⟨k, hk⟩ := State.registered_iff.mp hr
      have hkk : args.channel ≠ k := by
        rintro rfl
        rw [hk', Option.some.injEq] at hk
        exact hne hk.symm
      obtain ⟨b, t, hb, hrt, hobjt, hregt⟩ := replace_key hkey' hk
      exact ⟨[b], t, .single trivial hb, not_harmless_of_twin (hregt _ _ hkk hk')
        (hobjt _ _ hnew) (hobjt _ _ hp') hrt hnum⟩

end AntWireless.Channel
