import AntWireless.Channel.Registry

/-!
# AntWireless — closed channels and open ones

`closed?` is not stored: an object is closed when the registry holds another object, or
none, under its number. `close` sends its request for the number and deletes the entry of
the number, whoever has it.

* `closed_forever` — a closed object stays closed, and open objects have different numbers.
* `LeavesAlone` — what a method called on one object should not do to another.
* `close_leavesAlone_iff` — closing a closed object leaves another one alone exactly where
  nothing is sent, the numbers differ, or the other one is closed too.
-/

namespace AntWireless.Channel

/-- `closed?` of an object, if it has not been collected. -/
def State.closedP (s : State) (o : ObjId) : Option Bool :=
  (s.objects o).map fun ch => rantChannelClosedP s o ch.toRantChannel

/-- `open?` of an object, if it has not been collected. -/
def State.openP (s : State) (o : ObjId) : Option Bool := (s.closedP o).map fun closed => !closed

section Queries

variable {s : State} {o : ObjId} {ch : ChannelObject}

/-- `closed?` looks its own number up, and compares identities. -/
theorem closedP_eq_true_iff (ho : s.objects o = some ch) :
    s.closedP o = some true ↔ s.registry.lookup (int2fix ch.channelNum) ≠ some o := by
  simp [State.closedP, ho, rantChannelClosedP]

/-- An object is not closed exactly if it is found under its own number. -/
theorem closedP_eq_false_iff (ho : s.objects o = some ch) :
    s.closedP o = some false ↔ s.registry.lookup (int2fix ch.channelNum) = some o := by
  simp [State.closedP, ho, rantChannelClosedP]

theorem openP_eq_true_iff : s.openP o = some true ↔ s.closedP o = some false := by
  simp [State.openP]

/-- An entry under an Integer key is that of an object with the number: its
key is what the number was read from. -/
theorem Keyed.number_of_entry {n : UInt8} (h : Keyed s) (ho : s.objects o = some ch)
    (hk : s.registry.lookup (int2fix n) = some o) : ch.channelNum = n := by
  obtain ⟨ch', u, ho', hu, hchr, hnum⟩ := h.entry _ o hk
  obtain rfl : ch = ch' := Option.some.inj (ho.symm.trans ho')
  rw [num2chr_int2fix, Except.ok.injEq] at hchr
  rw [hnum, ← hchr]

end Queries

-- ---------------------------------------------------------------------------
-- Closed for good
-- ---------------------------------------------------------------------------

section Closed

variable {s s' t : State} {a : Action} {o : ObjId} {as bs : List Action}

/-- The object was made, and is closed if it has not been collected. -/
structure Gone (s : State) (o : ObjId) : Prop where
  made : o < s.nextId
  closed : ∀ ch, s.objects o = some ch → s.registry.lookup (int2fix ch.channelNum) ≠ some o

/-- **Step.** No step opens a closed object: new entries are those of new objects. -/
theorem gone_step (h : Gone s o) (hs : step s a = some s') : Gone s' o := by
  have hch := change_of_step hs
  refine ⟨Nat.lt_of_lt_of_le h.made hch.nextId_le, ?_⟩
  intro ch' ho' hk
  rcases hch.entry_old hk with hk | ⟨args, u, -, -, rfl, -⟩
  · rcases hch.object_old ho' with ⟨ch, ho, hnum, -⟩ | ⟨rfl, -⟩
    · rw [hnum] at hk
      exact h.closed ch ho hk
    · exact Nat.lt_irrefl _ h.made
  · exact Nat.lt_irrefl _ h.made

/-- **Run.** Closed once, closed from then on. -/
theorem gone_exec (h : Gone s o) (hrun : Lts.Exec step Lts.Any s as t) : Gone t o :=
  hrun.invariant (I := fun s => Gone s o) (fun _ _ _ h _ hs => gone_step h hs) h

/-- An object that is closed was made before, and its number leads elsewhere
or nowhere. -/
theorem gone_of_closedP (hkey : Keyed s) (h : s.closedP o = some true) : Gone s o := by
  obtain ⟨ch, ho, -⟩ := Option.map_eq_some_iff.mp h
  refine ⟨hkey.fresh o ch ho, ?_⟩
  intro ch' ho'
  exact (closedP_eq_true_iff ho').mp h

/-- **Closed for good.** In every run an object that has been closed is closed
in every later state in which it exists, and no two open objects carry one
number. An entry is written for a new object only, and a number leads to one
object at a time. -/
theorem closed_forever (hrun : Lts.Exec step Lts.Any init as s)
    (hlater : Lts.Exec step Lts.Any s bs t) :
    (∀ o, s.closedP o = some true → t.objects o ≠ none → t.closedP o = some true) ∧
    ∀ o p n, t.numberOf o = some n → t.numberOf p = some n → t.openP o = some true →
      t.openP p = some true → o = p := by
  constructor
  · intro o hclosed hexists
    have hgone := gone_exec (gone_of_closedP (keyed_exec hrun) hclosed) hlater
    obtain ⟨ch, ho⟩ := Option.ne_none_iff_exists'.mp hexists
    exact (closedP_eq_true_iff ho).mpr (hgone.closed ch ho)
  · intro o p n hno hnp hopen hopen'
    obtain ⟨ch, ho, rfl⟩ := Option.map_eq_some_iff.mp hno
    obtain ⟨ch', hp, hnum⟩ := Option.map_eq_some_iff.mp hnp
    have hk := (closedP_eq_false_iff ho).mp (openP_eq_true_iff.mp hopen)
    have hk' := (closedP_eq_false_iff hp).mp (openP_eq_true_iff.mp hopen')
    rw [hnum, hk, Option.some.injEq] at hk'
    exact hk'

/-- `Ant.assign_channel( channel, 0 )`. -/
def assign (channel : Value) : Action := .assignChannel ⟨channel, .int 0, .nil, .nil, .nil⟩ true

/-- A number in use is assigned again, and again after the library was reset;
the first object stays closed, also when it is closed once more. -/
theorem closed_forever_reassigned : ∃ s t,
    Lts.Exec step Lts.Any init [assign (.int 0), assign (.int 0)] s ∧
    Lts.Exec step Lts.Any s [.reset, assign (.int 0), .close 0 .nil false] t ∧
    s.closedP 0 = some true ∧ t.closedP 0 = some true ∧ t.openP 2 = some true ∧
    ∀ p, t.numberOf p = some 0 → t.openP p = some true → 2 = p := by
  have hrun : ((Lts.runIf step (fun _ _ => true) init [assign (.int 0), assign (.int 0)]).map
      fun s => s.closedP 0) = some (some true) := by decide +kernel
  obtain ⟨s, hs, hclosed⟩ := Option.map_eq_some_iff.mp hrun
  have hrun' : (((Lts.runIf step (fun _ _ => true) init
      [assign (.int 0), assign (.int 0)]).bind fun s => Lts.runIf step (fun _ _ => true) s
        [.reset, assign (.int 0), .close 0 .nil false]).map fun t =>
          ((t.objects 0).isSome, t.openP 2, t.numberOf 2)) =
      some (true, some true, some 0) := by decide +kernel
  rw [hs] at hrun'
  obtain ⟨t, ht, hval⟩ := Option.map_eq_some_iff.mp hrun'
  simp only [Prod.mk.injEq] at hval
  obtain ⟨hexists, hopen, hnum⟩ := hval
  have hexec := Lts.exec_of_runIf (G := Lts.Any) (fun _ _ _ => trivial) hs
  have hexec' := Lts.exec_of_runIf (G := Lts.Any) (fun _ _ _ => trivial) ht
  obtain ⟨hstays, hunique⟩ := closed_forever hexec hexec'
  exact ⟨s, t, hexec, hexec', hclosed, hstays 0 hclosed (Option.isSome_iff_ne_none.mp hexists),
    hopen, fun p hp hopen' => hunique 2 p 0 hnum hp hopen hopen'⟩

end Closed

-- ---------------------------------------------------------------------------
-- Closing a closed object
-- ---------------------------------------------------------------------------

/-- A method leaves the object `p` alone: it is closed or open as before, its
entries are in place, and no library call names the number that it has if it
is open. -/
structure LeavesAlone (s : State) (r : Outcome Unit) (p : ObjId) : Prop where
  closedP : r.state.closedP p = s.closedP p
  entry : ∀ k, s.registry.lookup k = some p → r.state.registry.lookup k = some p
  request : s.openP p = some true → ∀ c ∈ r.calls, c.channel ≠ s.numberOf p

section Close

variable {s : State} {o p : ObjId} {ch ch' : ChannelObject} {timeout : Value} {t : UInt32}

/-- All that `close` does: its request, and one entry less if that succeeds.
The object itself is not touched, which is why it can be closed again. -/
theorem close_converted (s : State) (ch : ChannelObject) (ht : optionalUint timeout = .ok t)
    (ok : Bool) :
    (rantChannelClose s ch.toRantChannel timeout ok).calls = [.closeChannelRTO ch.channelNum t] ∧
    (rantChannelClose s ch.toRantChannel timeout ok).state.objects = s.objects ∧
    (∀ k q, (rantChannelClose s ch.toRantChannel timeout ok).state.registry.lookup k = some q →
      s.registry.lookup k = some q) ∧
    ∀ k q, k ≠ int2fix ch.channelNum → s.registry.lookup k = some q →
      (rantChannelClose s ch.toRantChannel timeout ok).state.registry.lookup k = some q := by
  unfold rantChannelClose
  rw [ht]
  cases ok with
  | false => exact ⟨rfl, rfl, fun _ _ h => h, fun _ _ _ h => h⟩
  | true =>
    refine ⟨rfl, rfl, fun k q hk => (lookup_erase_some hk).2, fun k q hne hk => ?_⟩
    exact (AList.lookup_erase_ne hne).trans hk

/-- What decides whether an object is closed are its number and its entries. -/
theorem closedP_congr {s' : State} (hobj : s'.objects = s.objects)
    (hentry : ∀ k, s'.registry.lookup k = some p ↔ s.registry.lookup k = some p) :
    s'.closedP p = s.closedP p := by
  simp only [State.closedP, rantChannelClosedP, hobj, ne_eq, hentry]

/-- The entry that `close` deletes is not one of a closed object, nor of one
with another number, and its request is for that number. So neither `closed?`
nor anything on the radio changes for such an object. -/
theorem leavesAlone_of_other (hkey : Keyed s) (hp : s.objects p = some ch')
    (ht : optionalUint timeout = .ok t) (ok : Bool)
    (hother : s.closedP p = some true ∨ ch.channelNum ≠ ch'.channelNum) :
    LeavesAlone s (rantChannelClose s ch.toRantChannel timeout ok) p := by
  obtain ⟨hcalls, hobj, hold, hreg⟩ := close_converted s ch ht ok
  have hkept : s.registry.lookup (int2fix ch.channelNum) ≠ some p := by
    intro hk
    have hnum := hkey.number_of_entry hp hk
    rcases hother with hclosed | hdiff
    · exact (closedP_eq_true_iff hp).mp hclosed (hnum ▸ hk)
    · exact hdiff hnum.symm
  have hentry : ∀ k, s.registry.lookup k = some p →
      (rantChannelClose s ch.toRantChannel timeout ok).state.registry.lookup k = some p := by
    intro k hk
    exact hreg k p (by rintro rfl; exact hkept hk) hk
  refine ⟨closedP_congr hobj fun k => ⟨hold k p, hentry k⟩, hentry, ?_⟩
  intro hopen c hc
  rw [hcalls, List.mem_singleton] at hc
  subst hc
  rw [State.numberOf, hp]
  rcases hother with hclosed | hdiff
  · rw [openP_eq_true_iff, hclosed] at hopen
    cases hopen
  · exact fun heq => hdiff (Option.some.inj heq)

/-- An open object of the same number would see the request, whether it
succeeds or not. -/
theorem other_of_leavesAlone (hp : s.objects p = some ch') (ht : optionalUint timeout = .ok t)
    (ok : Bool) (halone : LeavesAlone s (rantChannelClose s ch.toRantChannel timeout ok) p) :
    s.closedP p = some true ∨ ch.channelNum ≠ ch'.channelNum := by
  by_cases hopen : s.closedP p = some true
  · exact .inl hopen
  · refine .inr fun hsame => ?_
    have hopen' : s.openP p = some true := by
      rw [openP_eq_true_iff, closedP_eq_false_iff hp]
      rwa [closedP_eq_true_iff hp, not_not] at hopen
    refine halone.request hopen' (.closeChannelRTO ch.channelNum t) ?_ ?_
    · rw [(close_converted s ch ht ok).1]
      exact List.mem_singleton.mpr rfl
    · rw [State.numberOf, hp, hsame]
      rfl

/-- **Closing an object.** In every reachable state, `close` on an object,
closed or not, leaves another one alone if and only if its timeout does not
convert, the other object is closed, or their numbers differ. It does not look
whether the object it is called on is the one that the registry holds. -/
theorem close_leavesAlone_iff {as : List Action} (hrun : Lts.Exec step Lts.Any init as s)
    (ho : s.objects o = some ch) (hp : s.objects p = some ch') (timeout : Value) (ok : Bool) :
    LeavesAlone s (rantChannelClose s ch.toRantChannel timeout ok) p ↔
      (∃ e, optionalUint timeout = .error e) ∨ s.closedP p = some true ∨
      s.numberOf o ≠ s.numberOf p := by
  have hno : s.numberOf o = some ch.channelNum := by rw [State.numberOf, ho]; rfl
  have hnp : s.numberOf p = some ch'.channelNum := by rw [State.numberOf, hp]; rfl
  rw [hno, hnp]
  cases ht : optionalUint timeout with
  | error e =>
    refine iff_of_true ?_ (.inl ⟨e, rfl⟩)
    unfold rantChannelClose
    rw [ht]
    exact ⟨rfl, fun _ hk => hk, fun _ _ hc => nomatch hc⟩
  | ok t =>
    have hdiff : some ch.channelNum ≠ some ch'.channelNum ↔ ch.channelNum ≠ ch'.channelNum :=
      (Option.some_inj).not
    rw [hdiff]
    constructor
    · exact fun halone => .inr (other_of_leavesAlone hp ht ok halone)
    · rintro (⟨e, he⟩ | hother)
      · cases he
      · exact leavesAlone_of_other (keyed_exec hrun) hp ht ok hother

/-- The closed channel 0 is closed again, and channel 1 is open: the request
goes to channel 0 once more. -/
theorem close_leavesAlone_iff_otherNumber : ∃ s ch ch',
    Lts.Exec step Lts.Any init [assign (.int 0), .close 0 .nil true, assign (.int 1)] s ∧
    s.objects 0 = some ch ∧ s.objects 1 = some ch' ∧ s.closedP 0 = some true ∧
    s.openP 1 = some true ∧
    LeavesAlone s (rantChannelClose s ch.toRantChannel (.int 10) true) 1 := by
  have hrun : ((Lts.runIf step (fun _ _ => true) init
      [assign (.int 0), .close 0 .nil true, assign (.int 1)]).map fun s =>
        (s.closedP 0, s.openP 1, s.numberOf 0, s.numberOf 1)) =
      some (some true, some true, some 0, some 1) := by decide +kernel
  obtain ⟨s, hexec, hval⟩ := Lts.exec_of_computed hrun
  simp only [Prod.mk.injEq] at hval
  obtain ⟨hclosed, hopen, hno, hnp⟩ := hval
  obtain ⟨ch, ho, -⟩ := Option.map_eq_some_iff.mp hno
  obtain ⟨ch', hp, -⟩ := Option.map_eq_some_iff.mp hnp
  refine ⟨s, ch, ch', hexec, ho, hp, hclosed, hopen, ?_⟩
  refine (close_leavesAlone_iff hexec ho hp (.int 10) true).mpr ?_
  rw [hno, hnp]
  exact .inr (.inr (by decide))

/-- **A closed object closes another one.** The number of a closed channel is
assigned again, and then the old object is closed once more: the request goes
out for the number, and the entry of the new object is deleted. -/
theorem closedTwice_closes_other : ∃ s ch ch',
    Lts.Exec step Lts.Any init [assign (.int 0), .close 0 .nil true, assign (.int 0)] s ∧
    s.objects 0 = some ch ∧ s.objects 1 = some ch' ∧ s.closedP 0 = some true ∧
    s.closedP 1 = some false ∧
    (rantChannelClose s ch.toRantChannel .nil true).calls = [.closeChannelRTO ch'.channelNum 0] ∧
    (rantChannelClose s ch.toRantChannel .nil true).state.closedP 1 = some true ∧
    ¬ LeavesAlone s (rantChannelClose s ch.toRantChannel .nil true) 1 := by
  have hrun : (Lts.runIf step (fun _ _ => true) init
      [assign (.int 0), .close 0 .nil true, assign (.int 0)]).map (fun s =>
        (s.closedP 0, s.closedP 1, s.numberOf 0, s.numberOf 1)) =
      some (some true, some false, some 0, some 0) := by decide +kernel
  obtain ⟨s, hexec, hval⟩ := Lts.exec_of_computed hrun
  simp only [Prod.mk.injEq] at hval
  obtain ⟨hclosed, hopen, hno, hnp⟩ := hval
  obtain ⟨ch, ho, hnum⟩ := Option.map_eq_some_iff.mp hno
  obtain ⟨ch', hp, hnum'⟩ := Option.map_eq_some_iff.mp hnp
  have hsame : ch.channelNum = ch'.channelNum := hnum.trans hnum'.symm
  have hafter : (rantChannelClose s ch.toRantChannel .nil true).state.closedP 1 = some true := by
    have hp' : (rantChannelClose s ch.toRantChannel .nil true).state.objects 1 = some ch' := hp
    rw [closedP_eq_true_iff hp', ← hsame]
    show (s.registry.erase (int2fix ch.channelNum)).lookup (int2fix ch.channelNum) ≠ some 1
    rw [AList.lookup_erase]
    exact (Option.some_ne_none 1).symm
  refine ⟨s, ch, ch', hexec, ho, hp, hclosed, hopen, ?_, hafter, fun halone => ?_⟩
  · rw [← hsame]
    rfl
  · have hstill := halone.closedP
    rw [hafter, hopen] at hstill
    cases hstill

end Close

end AntWireless.Channel
