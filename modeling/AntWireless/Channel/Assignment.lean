import AntWireless.Channel.Closing
import AntWireless.Lib.Except

/-!
# AntWireless — what `Ant.assign_channel` leaves where it raises or returns

The channel argument is read three times: the library is told its `NUM2CHR`, the object its
`NUM2USHORT` cut to a byte, and the registry is keyed by the argument itself. The library
call comes before the second conversion.

* `AllOrNothing` — the call raises and changes nothing, or returns an open channel that is
  registered under its number.
* `assign_allOrNothing` — that holds exactly where the argument is an Integer in `0..255`, or
  no library call succeeds, or the library has the number assigned just so already; and in every
  run of such calls each key is the number of its object.
-/

namespace AntWireless.Channel

/-- The call raised, and the assignments of all numbers and the registry are
as they were; or it returned a channel that is registered under the number
just assigned, and open. -/
inductive AllOrNothing (s : State) (r : Outcome ObjId) : Prop
  | nothing (e : RubyError) (hraised : r.value = .error e)
      (has : r.state.library.assignment = s.library.assignment)
      (hreg : r.state.registry = s.registry)
  | all (self : ObjId) (n type network extend responseTime : UInt8) (hvalue : r.value = .ok self)
      (hcalls : r.calls = [.assignChannelExtRTO n type network extend responseTime])
      (has : r.state.library.assignment n = some ⟨type, network, extend⟩)
      (hnum : r.state.numberOf self = some n)
      (hreg : r.state.registry.lookup (int2fix n) = some self)
      (hopen : r.state.closedP self = some false)

/-- The number of the call is assigned already, with the type, network and
options of the call. -/
def Library.has (l : Library) : LibraryCall → Prop
  | .assignChannelExtRTO n type network extend _ => l.assignment n = some ⟨type, network, extend⟩
  | _ => False

/-- No library call of `Ant.assign_channel` succeeds, or the channel argument
is an Integer in `0..255`, or the object gets no number while the library has
the number assigned just as the call asks. -/
def SoundCall (s : State) (a : AssignArgs) (ok : Bool) : Prop :=
  (assignCall a).isOk = false ∨ ok = false ∨ (∃ n, a.channel = int2fix n) ∨
    (num2ushort a.channel).isOk = false ∧ IfOk s.library.has (assignCall a)

/-- The condition on a step of a run. -/
def SoundAssign (s : State) : Action → Prop
  | .assignChannel a ok => SoundCall s a ok
  | _ => True

/-- Every key is the Integer that its object has as channel number. -/
def WellKeyed (s : State) : Prop :=
  ∀ k o, s.registry.lookup k = some o → ∃ n, s.numberOf o = some n ∧ k = int2fix n

-- ---------------------------------------------------------------------------
-- One call
-- ---------------------------------------------------------------------------

section Call

variable {s : State} {a : AssignArgs} {c : LibraryCall} {u : UInt16} {ok : Bool}

/-- Arguments that do not convert: there is no library call. -/
theorem assign_rejected {e : RubyError} (h : assignCall a = .error e) :
    rantSAssignChannel s a ok = ⟨.error e, [], s⟩ := by
  unfold rantSAssignChannel
  rw [h]

/-- A library call that fails: the method raises, and nothing is registered. -/
theorem assign_refused (h : assignCall a = .ok c) :
    ∃ e, rantSAssignChannel s a false = ⟨.error e, [c], s⟩ := by
  obtain ⟨n, t, w, x, r, rfl, -⟩ := assignCall_eq_ok h
  unfold rantSAssignChannel
  rw [h]
  exact ⟨_, rfl⟩

/-- The library has assigned the number, and `initialize` raises: the
assignment stays, and the registry is as it was. -/
theorem assign_abandoned {e : RubyError} {n t w x r : UInt8}
    (h : assignCall a = .ok (.assignChannelExtRTO n t w x r))
    (he : num2ushort a.channel = .error e) :
    (rantSAssignChannel s a true).value = .error e ∧
    (rantSAssignChannel s a true).state.registry = s.registry ∧
    (rantSAssignChannel s a true).state.library.assignment =
      Function.update s.library.assignment n (some ⟨t, w, x⟩) := by
  simp only [rantSAssignChannel, h, if_true, newInstance, rantChannelInit, he]
  exact ⟨rfl, rfl, rfl⟩

/-- The new object is registered under the argument, whatever its number, and
what the library has assigned is the number that `NUM2CHR` reads. -/
theorem assign_returned {n t w x r : UInt8}
    (h : assignCall a = .ok (.assignChannelExtRTO n t w x r))
    (hu : num2ushort a.channel = .ok u) :
    (rantSAssignChannel s a true).value = .ok s.nextId ∧
    (rantSAssignChannel s a true).calls = [.assignChannelExtRTO n t w x r] ∧
    (rantSAssignChannel s a true).state.objects s.nextId = some (initialized a u) ∧
    (rantSAssignChannel s a true).state.registry = s.registry.insert a.channel s.nextId ∧
    (rantSAssignChannel s a true).state.library.assignment =
      Function.update s.library.assignment n (some ⟨t, w, x⟩) := by
  simp only [rantSAssignChannel, h, if_true, newInstance, rantChannelInit, hu]
  exact ⟨rfl, trivial, Function.update_self .., rfl, rfl⟩

/-- A call that returned has made a new object, whose number was read by
`NUM2USHORT`, and the identity it returns is the one that was next. What the
library was told is no matter here. -/
theorem assign_eq_ok {o : ObjId} (h : (rantSAssignChannel s a ok).value = .ok o) :
    ∃ u, num2ushort a.channel = .ok u ∧ o = s.nextId ∧
      (rantSAssignChannel s a ok).state.objects o = some (initialized a u) ∧
      (rantSAssignChannel s a ok).state.nextId = s.nextId + 1 := by
  cases hc : assignCall a with
  | error e =>
    rw [assign_rejected hc] at h
    cases h
  | ok c =>
    cases ok with
    | false =>
      obtain ⟨e, he⟩ := assign_refused (s := s) hc
      rw [he] at h
      cases h
    | true =>
      obtain ⟨n, t, w, x, r, rfl, -⟩ := assignCall_eq_ok hc
      cases hu : num2ushort a.channel with
      | error e =>
        rw [(assign_abandoned hc hu).1] at h
        cases h
      | ok u =>
        obtain ⟨hvalue, -, hobj, -⟩ := assign_returned (s := s) hc hu
        rw [hvalue, Except.ok.injEq] at h
        subst h
        refine ⟨u, rfl, rfl, hobj, ?_⟩
        simp only [rantSAssignChannel, hc, if_true, newInstance, rantChannelInit, hu]
        rfl

/-- After a library call that succeeded it depends on the channel argument
whether the object keeps what was assigned: it must be an Integer that is a
channel number, for the key of the registry to be the number. Where
`initialize` raises, it depends on what was assigned before. -/
theorem allOrNothing_iff_of_assigned {n t w x r : UInt8} (hkey : Keyed s)
    (h : assignCall a = .ok (.assignChannelExtRTO n t w x r)) :
    AllOrNothing s (rantSAssignChannel s a true) ↔
      (∃ m, a.channel = int2fix m) ∨
      (num2ushort a.channel).isOk = false ∧ s.library.assignment n = some ⟨t, w, x⟩ := by
  obtain ⟨n', t', w', x', r', heq, hn⟩ := assignCall_eq_ok h
  cases heq
  cases hu : num2ushort a.channel with
  | error e =>
    obtain ⟨hvalue, hreg, has⟩ := assign_abandoned (s := s) h hu
    constructor
    · rintro (⟨e', -, hsame, -⟩ | ⟨self, -, -, -, -, -, hself, -⟩)
      · rw [has, Function.update_eq_self_iff] at hsame
        exact .inr ⟨rfl, hsame.symm⟩
      · rw [hvalue] at hself
        cases hself
    · rintro (⟨m, hm⟩ | ⟨-, hassigned⟩)
      · rw [hm, num2ushort_int2fix] at hu
        cases hu
      · exact .nothing e hvalue (by rw [has, ← hassigned, Function.update_eq_self]) hreg
  | ok u =>
    obtain rfl := num2chr_of_num2ushort hu hn
    obtain ⟨hvalue, hcalls, hobj, hreg, has⟩ := assign_returned (s := s) h hu
    have hnum : (rantSAssignChannel s a true).state.numberOf s.nextId = some u.toUInt8 := by
      rw [State.numberOf, hobj]
      rfl
    constructor
    · rintro (⟨e', hraised, -⟩ | ⟨self, m, -, -, -, -, hself, -, -, hm, hlookup, -⟩)
      · rw [hvalue] at hraised
        cases hraised
      · -- an older entry cannot be that of the new object
        rw [hvalue, Except.ok.injEq] at hself
        subst hself
        rw [hreg] at hlookup
        rcases lookup_insert_cases hlookup with ⟨hkey', -⟩ | ⟨-, hold⟩
        · exact .inl ⟨m, hkey'.symm⟩
        · exact absurd rfl (hkey.ne_nextId hold)
    · rintro (⟨m, hm⟩ | ⟨hfails, -⟩)
      · have hmu : m = u.toUInt8 := by
          rw [hm, num2chr_int2fix, Except.ok.injEq] at hn
          exact hn
        have hlookup : (rantSAssignChannel s a true).state.registry.lookup (int2fix u.toUInt8) =
            some s.nextId := by
          rw [hreg, hm, hmu, AList.lookup_insert]
        refine .all s.nextId u.toUInt8 t w x r hvalue hcalls ?_ hnum hlookup ?_
        · rw [has, Function.update_self]
        · exact (closedP_eq_false_iff hobj).mpr hlookup
      · cases hfails

/-- In one reachable state a call is all or nothing exactly if it is sound.
The cases are those of its library call: none is made, it fails, or it
succeeds. -/
theorem allOrNothing_iff (hkey : Keyed s) (a : AssignArgs) (ok : Bool) :
    AllOrNothing s (rantSAssignChannel s a ok) ↔ SoundCall s a ok := by
  unfold SoundCall
  cases hc : assignCall a with
  | error e =>
    refine iff_of_true ?_ (.inl rfl)
    rw [assign_rejected hc]
    exact .nothing e rfl rfl rfl
  | ok c =>
    cases ok with
    | false =>
      obtain ⟨e, he⟩ := assign_refused (s := s) hc
      refine iff_of_true ?_ (.inr (.inl rfl))
      rw [he]
      exact .nothing e rfl rfl rfl
    | true =>
      obtain ⟨n, t, w, x, r, rfl, hn⟩ := assignCall_eq_ok hc
      rw [allOrNothing_iff_of_assigned hkey hc]
      simp [Except.isOk, Except.toBool, Library.has]

end Call

-- ---------------------------------------------------------------------------
-- Runs
-- ---------------------------------------------------------------------------

section Runs

variable {s s' : State} {a : Action} {as : List Action}

/-- A registered object keeps its number: only `initialize` writes it. -/
theorem Change.numberOf_kept {o : ObjId} {n : UInt8} {k : Value} (h : Change s s' a)
    (hkey : Keyed s) (hk : s.registry.lookup k = some o) (hn : s.numberOf o = some n) :
    s'.numberOf o = some n := by
  obtain ⟨ch, ho, rfl⟩ := Option.map_eq_some_iff.mp hn
  rcases h.object_kept hkey.fresh ho with ⟨ch', ho', hnum, -⟩ | hgc
  · rw [State.numberOf, ho', Option.map_some, hnum]
  · exact absurd hgc (h.registered_kept hk)

/-- **Step.** A sound assignment registers its object under the Integer that
is its number, and no other operation adds an entry or changes the number of a
registered object. -/
theorem wellKeyed_step (hkey : Keyed s) (h : WellKeyed s) (hsound : SoundAssign s a)
    (hs : step s a = some s') : WellKeyed s' := by
  have hch := change_of_step hs
  intro k o hk
  rcases hch.entry_old hk with hold | ⟨args, u, rfl, rfl, rfl, hu, hchr, ho⟩
  · obtain ⟨n, hn, hkn⟩ := h k o hold
    exact ⟨n, hch.numberOf_kept hkey hold hn, hkn⟩
  · refine ⟨u.toUInt8, by rw [State.numberOf, ho]; rfl, ?_⟩
    rcases hsound with hfails | hfalse | ⟨n, hn⟩ | ⟨hfails, -⟩
    · -- nothing was registered
      obtain ⟨e, he⟩ := Except.isOk_eq_false_iff.mp hfails
      rw [step, perform, assign_rejected he, Option.map_some, Option.some.injEq] at hs
      exact absurd rfl (hkey.ne_nextId (hs ▸ hk))
    · cases hfalse
    · rw [hn, num2chr_int2fix, Except.ok.injEq] at hchr
      rw [hn, hchr]
    · rw [hu] at hfails
      cases hfails

/-- **Assignment.** In every reachable state a call of `Ant.assign_channel` is
all or nothing if and only if the condition holds; and in every run of such
calls each registry key is the channel number of its object. -/
theorem assign_allOrNothing (hrun : Lts.Exec step Lts.Any init as s) :
    (∀ a ok, AllOrNothing s (rantSAssignChannel s a ok) ↔ SoundCall s a ok) ∧
    (Lts.Exec step SoundAssign init as s → WellKeyed s) := by
  refine ⟨allOrNothing_iff (keyed_exec hrun), fun hsound => ?_⟩
  have hboth : Keyed s ∧ WellKeyed s := by
    refine hsound.invariant (I := fun s => Keyed s ∧ WellKeyed s) ?_
      ⟨keyed_init, fun _ _ h => nomatch h⟩
    intro s a s' h hg hs
    exact ⟨keyed_step h.1 hs, wellKeyed_step h.1 h.2 hg hs⟩
  exact hboth.2

/-- A channel, a call that raises, and the number once more. -/
theorem assign_allOrNothing_reassigned : ∃ s,
    Lts.Exec step SoundAssign init [assign (.int 3), assign .nil, assign (.int 3)] s ∧
    WellKeyed s ∧ s.registry.lookup (.int 3) = some 1 ∧
    AllOrNothing s (rantSAssignChannel s ⟨.int 255, .int 16, .int 1, .nil, .int 200⟩ true) := by
  have hthree : ∀ s, SoundAssign s (assign (.int 3)) := fun _ => .inr (.inr (.inl ⟨3, rfl⟩))
  have hstart : Lts.Exec step SoundAssign init [] init := .nil
  have hsound := ((hstart.snoc (hthree init) rfl).snoc
    (a := assign .nil) (.inl rfl) rfl).snoc (hthree _) rfl
  obtain ⟨hcalls, hkeyed⟩ := assign_allOrNothing (hsound.mono fun _ _ _ => trivial)
  refine ⟨_, hsound, hkeyed hsound, rfl, ?_⟩
  exact (hcalls _ true).mpr (.inr (.inr (.inl ⟨255, rfl⟩)))

/-- A call that raises and has changed an assignment is neither all nor nothing. -/
theorem not_allOrNothing_of_changed {r : Outcome ObjId} {e : RubyError} {n : UInt8}
    (hraised : r.value = .error e)
    (h : r.state.library.assignment n ≠ s.library.assignment n) : ¬ AllOrNothing s r := by
  rintro (⟨e', -, has, -⟩ | ⟨self, -, -, -, -, -, hself, -⟩)
  · exact h (congrFun has n)
  · rw [hraised] at hself
    cases hself

/-- **Assigned to nobody.** The library is told 97 for `"a"`, which is then no
number for the object: the call raises, and the number stays assigned. For 256
it is told 0, and the channel it returns is registered under 256: it is closed
from the start. And a call for `"\x03"` raises when it has already given the
channel of number 3 another type and another network. -/
theorem assign_leaves_behind :
    let r := rantSAssignChannel init ⟨.str [0x61], .int 0, .nil, .nil, .nil⟩ true
    let r' := rantSAssignChannel init ⟨.int 256, .int 0, .nil, .nil, .nil⟩ true
    let s := (rantSAssignChannel init ⟨.int 3, .int 0, .int 0, .nil, .nil⟩ true).state
    let r'' := rantSAssignChannel s ⟨.str [0x03], .int 0x10, .int 1, .nil, .nil⟩ true
    (r.value = .error .typeError ∧ r.state.library.assignment 97 = some ⟨0, 0, 0⟩ ∧
      ¬ AllOrNothing init r) ∧
    (r'.value = .ok 0 ∧ r'.state.numberOf 0 = some 0 ∧ r'.state.closedP 0 = some true ∧
      ¬ AllOrNothing init r' ∧ ¬ WellKeyed r'.state) ∧
    r''.value = .error .typeError ∧ r''.state.closedP 0 = some false ∧
      s.library.assignment 3 = some ⟨0, 0, 0⟩ ∧
      r''.state.library.assignment 3 = some ⟨0x10, 1, 0⟩ ∧ ¬ AllOrNothing s r'' := by
  intro r r' s r''
  refine ⟨⟨rfl, rfl, not_allOrNothing_of_changed (n := 97) rfl (by decide)⟩,
    ⟨rfl, rfl, by decide +kernel, ?_, ?_⟩, rfl, by decide +kernel, rfl, rfl,
    not_allOrNothing_of_changed (n := 3) rfl (by decide)⟩
  · rintro (⟨e, hraised, -⟩ | ⟨self, n, -, -, -, -, hself, -, -, -, -, hopen⟩)
    · cases hraised
    · obtain rfl : 0 = self := Except.ok.inj hself
      have hclosed : r'.state.closedP 0 = some true := by decide +kernel
      rw [hclosed] at hopen
      cases hopen
  · intro h
    obtain ⟨n, hn, hk⟩ := h (.int 256) 0 rfl
    cases hn
    cases hk

end Runs

end AntWireless.Channel
