import AntWireless.Channel.Assignment
import AntWireless.Lib.LastWrite

/-!
# AntWireless — which channels are open, from what has been called

The registry is a hash that `Ant.assign_channel`, `close`, `Ant.reset` and `Ant.close` write. What
it holds under a key is what the last of them that returned has left there, whatever failed or was
collected in between.

* `RegistryEvent`, `registryObserve` — the calls that return, with what they tell.
* `open_iff_history` — the registry and the open channels at the end of every run.
-/

namespace AntWireless.Channel

-- ---------------------------------------------------------------------------
-- Calls that return
-- ---------------------------------------------------------------------------

inductive RegistryEvent
  -- `Ant.assign_channel` with the channel argument `key` has returned the object `o`
  | assigned (key : Value) (o : ObjId)
  -- a channel with the number `n` has been closed
  | closed (n : UInt8)
  -- `Ant.reset` or `Ant.close`
  | cleared
  deriving DecidableEq, Repr

/-- What an action shows, if it is such a call and returns. -/
def registryObserve (s : State) : Action → Option RegistryEvent
  | .assignChannel a ok =>
    match (rantSAssignChannel s a ok).value with
    | .ok o => some (.assigned a.channel o)
    | .error _ => none
  | .close o timeout ok => (s.objects o).bind fun ch =>
    match (rantChannelClose s ch.toRantChannel timeout ok).value with
    | .ok _ => some (.closed ch.channelNum)
    | .error _ => none
  | .reset | .antClose => some .cleared
  | .onEvent .. | .gc _ => none

/-- What a call makes the entry of a key. -/
def registryWrite (k : Value) : RegistryEvent → Option (Option ObjId)
  | .assigned key o => if key = k then some (some o) else none
  | .closed n => if int2fix n = k then some none else none
  | .cleared => some none

/-- The object `o` is the last one assigned under the key, and since then
nothing has removed that entry. -/
def LastAssigned (k : Value) (o : ObjId) (log : List RegistryEvent) : Prop :=
  ∃ l l', log = l ++ .assigned k o :: l' ∧
    ∀ e ∈ l', e ≠ .cleared ∧ (∀ n, e = .closed n → int2fix n ≠ k) ∧ ∀ p, e ≠ .assigned k p

section Writes

variable {s s' : State} {a : Action} {k : Value}

/-- An entry gets an object from the assignment under its key only. -/
theorem registryWrite_eq_object_iff {e : RegistryEvent} {o : ObjId} :
    registryWrite k e = some (some o) ↔ e = .assigned k o := by
  cases e with
  | assigned key p =>
    by_cases hk : key = k
    · simp [registryWrite, hk]
    · simp [registryWrite, hk]
  | closed n => by_cases hn : int2fix n = k <;> simp [registryWrite, hn]
  | cleared => simp [registryWrite]

/-- What leaves an entry alone: anything but clearing the registry, closing a
channel of that number, and assigning under that key. -/
theorem registryWrite_eq_none_iff {e : RegistryEvent} :
    registryWrite k e = none ↔
      e ≠ .cleared ∧ (∀ n, e = .closed n → int2fix n ≠ k) ∧ ∀ p, e ≠ .assigned k p := by
  cases e with
  | assigned key p =>
    by_cases hk : key = k
    · simp [registryWrite, hk]
    · simp [registryWrite, hk]
  | closed n => by_cases hn : int2fix n = k <;> simp [registryWrite, hn]
  | cleared => simp [registryWrite]

/-- A call that raises, or whose library call fails, shows nothing, as it
changes nothing that the registry or the library has. -/
theorem registryObserve_rejected (h : Rejected a) : registryObserve s a = none := by
  cases a with
  | assignChannel args ok =>
    have hraises : ∃ e, (rantSAssignChannel s args ok).value = .error e := by
      cases hc : assignCall args with
      | error e => exact ⟨e, by rw [assign_rejected hc]⟩
      | ok c =>
        obtain rfl | ⟨e, he⟩ := h
        · obtain ⟨e, he⟩ := assign_refused (s := s) hc
          exact ⟨e, by rw [he]⟩
        · rw [hc] at he
          cases he
    obtain ⟨e, he⟩ := hraises
    rw [registryObserve, he]
  | close o timeout ok =>
    rw [registryObserve]
    cases s.objects o with
    | none => rfl
    | some ch =>
      cases ht : optionalUint timeout with
      | error e => simp [rantChannelClose, ht]
      | ok t =>
        obtain rfl | ⟨e, he⟩ := h
        · simp [rantChannelClose, ht]
        · rw [ht] at he
          cases he
  | onEvent o block => rfl
  | reset | antClose | gc o => cases h

/-- **Step.** What the registry has under a key is what the last call that
returned has written there: an assignment under the key, a close of a channel
with that number, a reset. A call that is rejected writes nothing, and neither
does the collector. -/
theorem writes_registry (k : Value) : Lts.Writes step Lts.Any registryObserve
    (fun s => some (s.registry.lookup k)) (registryWrite k) := by
  intro s a s' _ hs
  show some (s'.registry.lookup k) =
    ((registryObserve s a).bind (registryWrite k)).or (some (s.registry.lookup k))
  cases change_of_step hs with
  | unchanged a ha heq =>
    subst heq
    rw [registryObserve_rejected ha]
    rfl
  | assigned args c u hc hu hn hobj hid hreg has hfn =>
    obtain ⟨n, t, w, x, r, rfl, -⟩ := assignCall_eq_ok hc
    have hob : registryObserve s (.assignChannel args true) =
        some (.assigned args.channel s.nextId) := by
      rw [registryObserve, (assign_returned (s := s) hc hu).1]
    rw [hob, hreg]
    by_cases hk : args.channel = k
    · subst hk
      simp [registryWrite]
    · simp [registryWrite, hk, AList.lookup_insert_ne (Ne.symm hk)]
  | abandoned args c e n hc he hn hobj hid hreg has hfn =>
    obtain ⟨n, t, w, x, r, rfl, -⟩ := assignCall_eq_ok hc
    have hob : registryObserve s (.assignChannel args true) = none := by
      rw [registryObserve, (assign_abandoned (s := s) hc he).1]
    rw [hob, hreg]
    rfl
  | closed o ch timeout t ht ho hobj hid hreg hlib =>
    have hob : registryObserve s (.close o timeout true) = some (.closed ch.channelNum) := by
      simp [registryObserve, ho, rantChannelClose, ht]
    rw [hob, hreg]
    by_cases hk : int2fix ch.channelNum = k
    · subst hk
      simp [registryWrite]
    · simp [registryWrite, hk, AList.lookup_erase_ne (Ne.symm hk)]
  | cleared a ha hobj hid hreg has hfn =>
    have hob : registryObserve s a = some .cleared := by
      rcases ha with rfl | rfl
      · rfl
      · rfl
    rw [hob, hreg]
    rfl
  | blockSet o ch b ho hobj hid hreg has hfn =>
    rw [hreg]
    rfl
  | freed o ch ho hr hobj hid hreg has hfn =>
    rw [hreg]
    rfl

end Writes

-- ---------------------------------------------------------------------------
-- Runs
-- ---------------------------------------------------------------------------

/-- **Open channels.** At the end of every run, with any arguments, calls that
fail and collections, the registry holds an object under a key exactly where
that is the last one assigned under the key and the entry has not been removed
since. So a channel is open exactly where it is the last one assigned under
its number, and no channel of that number was closed since, and neither
`Ant.reset` nor `Ant.close` called. -/
theorem open_iff_history {as : List Action} {s : State} {log : List RegistryEvent}
    (hrun : Lts.Exec (Lts.logged step registryObserve) Lts.Any (init, []) as (s, log)) :
    (∀ k o, s.registry.lookup k = some o ↔ LastAssigned k o log) ∧
    ∀ o ch, s.objects o = some ch → (s.closedP o = some false ↔
      ∃ l l', log = l ++ .assigned (int2fix ch.channelNum) o :: l' ∧
        ∀ e ∈ l', e ≠ .cleared ∧ e ≠ .closed ch.channelNum ∧
          ∀ p, e ≠ .assigned (int2fix ch.channelNum) p) := by
  have hlookup : ∀ k o, s.registry.lookup k = some o ↔ LastAssigned k o log := by
    intro k o
    rw [(writes_registry k).exec_eq_some_iff rfl hrun o]
    simp only [registryWrite_eq_object_iff, registryWrite_eq_none_iff]
    constructor
    · rintro ⟨l, _, l', rfl, rfl, hrest⟩
      exact ⟨l, l', rfl, hrest⟩
    · rintro ⟨l, l', rfl, hrest⟩
      exact ⟨l, _, l', rfl, rfl, hrest⟩
  refine ⟨hlookup, fun o ch ho => ?_⟩
  -- closing removes the entry of its own number
  have hclosed : ∀ e : RegistryEvent, (∀ n, e = .closed n → int2fix n ≠ int2fix ch.channelNum) ↔
      e ≠ .closed ch.channelNum := by
    intro e
    constructor
    · rintro h rfl
      exact h ch.channelNum rfl rfl
    · rintro h n rfl hn
      rw [int2fix_injective hn] at h
      exact h rfl
  rw [closedP_eq_false_iff ho, hlookup, LastAssigned]
  simp only [hclosed]

/-- A number is assigned twice, and a close that fails leaves its channel open. -/
theorem open_iff_history_failedClose : ∃ s ch log,
    Lts.Exec (Lts.logged step registryObserve) Lts.Any (init, [])
      [assign (.int 3), assign (.int 4), assign (.int 3), .close 2 .nil false] (s, log) ∧
    s.objects 2 = some ch ∧ s.closedP 2 = some false ∧ s.closedP 0 = some true ∧
    ∃ l l', log = l ++ .assigned (int2fix ch.channelNum) 2 :: l' ∧
      ∀ e ∈ l', e ≠ .cleared ∧ e ≠ .closed ch.channelNum ∧
        ∀ p, e ≠ .assigned (int2fix ch.channelNum) p := by
  have hrun : (Lts.runIf (Lts.logged step registryObserve) (fun _ _ => true) (init, [])
      [assign (.int 3), assign (.int 4), assign (.int 3), .close 2 .nil false]).map
        (fun x => (x.1.closedP 2, x.1.closedP 0)) = some (some false, some true) := by
    decide +kernel
  obtain ⟨⟨s, log⟩, hexec, hval⟩ := Lts.exec_of_computed hrun
  obtain ⟨hopen, hold⟩ := Prod.mk.inj hval
  obtain ⟨ch, ho, -⟩ := Option.map_eq_some_iff.mp hopen
  exact ⟨s, ch, log, hexec, ho, hopen, hold, ((open_iff_history hexec).2 2 ch ho).mp hopen⟩

end AntWireless.Channel
