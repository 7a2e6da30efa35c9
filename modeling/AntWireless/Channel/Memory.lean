import AntWireless.Channel.Events

/-!
# AntWireless — buffers in memory

The library writes an event into the buffer of a channel object, and the handler of the
event reads and clears the buffer of the object it finds. `rant_channel_free` frees the
object, with its buffer, once the collector finds no more reference to it. While a block
runs, only the stack of its thread may hold one.

* `touches` — the object whose memory a step reads or writes.
* `dangling_collected` — in every run, the memory touched is that of an object which has
  not been freed, or of one that the collector took while its block was running.
* `event_served` — an event in flight can always go on, and is over in three steps.
-/

namespace AntWireless.Channel

-- ---------------------------------------------------------------------------
-- Accesses
-- ---------------------------------------------------------------------------

/-- The object whose memory the step reads or writes: the library its buffer,
the handler `ptr`, and `on_event_tx` the channel that it sends on. -/
def touches (s : EventState) : EventAction → Option ObjId
  | .report n _ _ => s.chan.library.eventFn n
  | .start k =>
    match s.flights k with
    | some ⟨e, .queued⟩ => s.chan.registry.lookup (int2fix e.ucANTChannel)
    | _ => none
  | .lookupTx k =>
    match s.flights k with
    | some ⟨e, .running _ true⟩ => s.chan.registry.lookup (int2fix e.ucANTChannel)
    | _ => none
  | .finish k _ =>
    match s.flights k with
    | some ⟨_, .running o false⟩ => some o
    | _ => none
  | .ruby _ => none

/-- The step function of a collector that does not look at the stacks of the
handlers. -/
def unpinnedStep (s : EventState) : EventAction → Option EventState
  | .ruby a => (step s.chan a).map fun c => { s with chan := c }
  | a => eventStep s a

/-- The two collectors differ in nothing but what they collect. -/
theorem unpinnedStep_eq (s : EventState) {a : EventAction} (ha : ∀ b, a ≠ .ruby b) :
    unpinnedStep s a = eventStep s a := by
  cases a with
  | ruby b => exact absurd rfl (ha b)
  | report | start | lookupTx | finish => rfl

/-- The object has not been freed. -/
def Live (s : EventState) (o : ObjId) : Prop := ∃ ch, s.chan.objects o = some ch

/-- What the accesses rest on; the object of a block that runs has not been
freed, or has the property `P`. -/
structure Rooted (P : ObjId → Prop) (s : EventState) : Prop where
  keyed : Keyed s.chan
  bound : ∀ k f, s.flights k = some f → k < s.nextEvent
  running : ∀ k e o tx, s.flights k = some ⟨e, .running o tx⟩ → Live s o ∨ P o

section Steps

variable {P Q : ObjId → Prop} {s s' : EventState} {a : EventAction} {o : ObjId}

theorem rooted_init : Rooted P eventInit where
  keyed := keyed_init
  bound _ _ h := by cases h
  running _ _ _ _ h := by cases h

theorem Rooted.mono (hPQ : ∀ o, P o → Q o) (h : Rooted P s) : Rooted Q s :=
  ⟨h.keyed, h.bound, fun k e o tx hk => (h.running k e o tx hk).imp_right (hPQ o)⟩

/-- A block that runs after a step ran before, or its object was found in the
registry. That object exists, and the handler has it on its stack from then
on. -/
theorem EventChange.running_old {ob : Option Observation} {k : Nat} {e : Event} {tx : Bool}
    (h : EventChange s s' a ob) (hk : s'.flights k = some ⟨e, .running o tx⟩) :
    (∃ e' tx', s.flights k = some ⟨e', .running o tx'⟩) ∨
      s.chan.registry.lookup (int2fix e.ucANTChannel) = some o := by
  cases h with
  | ruby a hpin hchan hfl hnext => exact .inl ⟨e, tx, hfl ▸ hk⟩
  | reported n ucEvent bytes p ch hfn hbusy ho hchan hfl hnext =>
    rw [hfl] at hk
    obtain ⟨-, hk⟩ := of_update hk (by simp)
    exact .inl ⟨e, tx, hk⟩
  | fetchFailed j e' hj hreg heq | txMissing j e' p hj hreg heq
  | noBlock j e' p ch hj hreg ho hcb heq | finished j r e' p ch hj ho heq =>
    subst heq
    obtain ⟨-, hk⟩ := of_update hk (by simp)
    exact .inl ⟨e, tx, hk⟩
  | called j e' p ch b hj hreg ho hcb heq =>
    subst heq
    rcases update_cases hk with ⟨rfl, hf⟩ | ⟨-, hk⟩
    · cases hf
      exact .inr hreg
    · exact .inl ⟨e, tx, hk⟩
  | txFound j e' p q hj hreg heq =>
    subst heq
    rcases update_cases hk with ⟨rfl, hf⟩ | ⟨-, hk⟩
    · cases hf
      exact .inl ⟨e, true, hj⟩
    · exact .inl ⟨e, tx, hk⟩

theorem pinned_of_running (hbound : ∀ k f, s.flights k = some f → k < s.nextEvent) {k : Nat}
    {e : Event} {tx : Bool} (hk : s.flights k = some ⟨e, .running o tx⟩) : s.pinned o = true :=
  decide_eq_true ⟨k, hbound k _ hk, _, hk, tx, rfl⟩

/-- **Step.** What the accesses rest on is kept, if an object that the
collector takes while its block runs has the property. Objects that no handler
is in may be taken at any time. -/
theorem rooted_step (h : Rooted P s) (hs : unpinnedStep s a = some s')
    (hgc : ∀ o, a = .ruby (.gc o) → s.pinned o = true → P o) : Rooted P s' := by
  cases a with
  | ruby b =>
    obtain ⟨c, hc, rfl⟩ := Option.map_eq_some_iff.mp hs
    refine ⟨keyed_step h.keyed hc, h.bound, fun k e o tx hk => ?_⟩
    rcases h.running k e o tx hk with ⟨ch, ho⟩ | hP
    · rcases (change_of_step hc).object_kept h.keyed.fresh ho with ⟨ch', ho', -⟩ | rfl
      · exact .inl ⟨ch', ho'⟩
      · exact .inr (hgc o rfl (pinned_of_running h.bound hk))
    · exact .inr hP
  | report n ucEvent bytes | start k | lookupTx k | finish k r =>
    rw [unpinnedStep_eq s (by simp)] at hs
    have hch := change_of_eventStep hs
    rcases hch.chan with ⟨b, hb, -⟩ | hshape
    · cases hb
    · have hlive : ∀ o, Live s o → Live s' o := fun o ⟨ch, ho⟩ =>
        (hshape.kept o ch ho).imp fun _ hch' => hch'.1
      refine ⟨h.keyed.of_sameShape hshape, fun k f' hk => ?_, fun k e o tx hk => ?_⟩
      · rcases hch.flight_old hk with ⟨f, hf, -⟩ | ⟨rfl, hnext, -⟩
        · exact Nat.lt_of_lt_of_le (h.bound k f hf) hch.nextEvent_le
        · rw [hnext]
          exact Nat.lt_succ_self _
      · rcases hch.running_old hk with ⟨e', tx', hk⟩ | hreg
        · exact (h.running k e' o tx' hk).imp_left (hlive o)
        · obtain ⟨ch, -, ho, -⟩ := h.keyed.entry _ _ hreg
          exact .inl (hlive o ⟨ch, ho⟩)

/-- The memory a step touches has not been freed, but for that of a block
which ends. The library writes to an object with a block, the handler reads
the one it has found, and only the `MEMZERO` comes after code of the program
has run. -/
theorem Rooted.touched (h : Rooted P s) (ht : touches s a = some o) :
    Live s o ∨ (∃ k r, a = .finish k r) ∧ P o := by
  cases a with
  | ruby a => cases ht
  | report n ucEvent bytes =>
    obtain ⟨ch, ho, -⟩ := h.keyed.pointer n o ht
    exact .inl ⟨ch, ho⟩
  | start k | lookupTx k =>
    simp only [touches] at ht
    split at ht
    · obtain ⟨ch, -, ho, -⟩ := h.keyed.entry _ o ht
      exact .inl ⟨ch, ho⟩
    · cases ht
  | finish k r =>
    simp only [touches] at ht
    split at ht
    · rename_i e p hk
      obtain rfl := Option.some.inj ht
      exact (h.running k e p false hk).imp_right fun hP => ⟨⟨k, r, rfl⟩, hP⟩
    · cases ht

end Steps

-- ---------------------------------------------------------------------------
-- Freed memory
-- ---------------------------------------------------------------------------

/-- The schedule has a step that collects the object while a block of it runs. -/
def CollectedInBlock (as : List EventAction) (o : ObjId) : Prop :=
  ∃ as₁ as₂ t, as = as₁ ++ .ruby (.gc o) :: as₂ ∧
    Lts.Exec unpinnedStep Lts.Any eventInit as₁ t ∧ t.pinned o = true

/-- **Run.** The exception is for the objects that the schedule collects while
a block of theirs runs. -/
theorem rooted_exec {as : List EventAction} {s : EventState}
    (hrun : Lts.Exec unpinnedStep Lts.Any eventInit as s) : Rooted (CollectedInBlock as) s := by
  induction hrun with
  | nil => exact rooted_init
  | @snoc as s s' a hrun _ hs ih =>
    have hlonger : ∀ o, CollectedInBlock as o → CollectedInBlock (as ++ [a]) o := by
      rintro o ⟨as₁, as₂, t, rfl, hrun₁, hpin⟩
      exact ⟨as₁, as₂ ++ [a], t, by simp, hrun₁, hpin⟩
    refine rooted_step (ih.mono hlonger) hs ?_
    rintro o rfl hpin
    exact ⟨as, [], s, rfl, hrun, hpin⟩

/-- **Freed buffers.** In every run, wherever the collector comes in: a step
touches the memory of a freed object only where a block ends whose object was
collected while a block of it ran. -/
theorem dangling_collected {as : List EventAction} {s : EventState}
    (hrun : Lts.Exec unpinnedStep Lts.Any eventInit as s) {a : EventAction} {o : ObjId}
    (ht : touches s a = some o) (hfreed : s.chan.objects o = none) :
    (∃ k r, a = .finish k r) ∧ CollectedInBlock as o := by
  rcases (rooted_exec hrun).touched ht with ⟨ch, ho⟩ | hfinish
  · rw [hfreed] at ho
    cases ho
  · exact hfinish

/-- The block closes its channel, and the collector takes the object before
the block ends. -/
def closedInBlock : List EventAction :=
  [.ruby (.assignChannel ⟨.int 3, .int 0, .nil, .nil, .nil⟩ true),
    .ruby (.onEvent 0 (some .handleEventCallback)), .report 3 eventRxFail ⟨[], Nat.zero_le _⟩,
    .start 0, .ruby (.close 0 .nil true), .ruby (.gc 0)]

/-- The end of the block clears the buffer of an object that was closed, and
collected, inside it. -/
theorem dangling_collected_closedInBlock : ∃ s,
    Lts.Exec unpinnedStep Lts.Any eventInit closedInBlock s ∧
    touches s (.finish 0 (.returned .nil)) = some 0 ∧ s.chan.objects 0 = none ∧
    CollectedInBlock closedInBlock 0 := by
  have hrun : (Lts.runIf unpinnedStep (fun _ _ => true) eventInit closedInBlock).map
      (fun s => (touches s (.finish 0 (.returned .nil)), (s.chan.objects 0).isNone)) =
      some (some 0, true) := by
    decide +kernel
  obtain ⟨s, hexec, hval⟩ := Lts.exec_of_computed hrun
  obtain ⟨ht, hnone⟩ := Prod.mk.inj hval
  have hfreed := Option.isNone_iff_eq_none.mp hnone
  exact ⟨s, hexec, ht, hfreed, (dangling_collected hexec ht hfreed).2⟩

-- ---------------------------------------------------------------------------
-- Events in flight
-- ---------------------------------------------------------------------------

/-- The steps of the handler that are still to come, at most. -/
def Phase.stepsLeft : Phase → Nat
  | .queued => 3
  | .running _ true => 2
  | .running _ false => 1

/-- None of an event that is over, or was not reported yet. -/
def EventState.stepsLeft (s : EventState) (k : Nat) : Nat :=
  (s.flights k).elim 0 fun f => f.phase.stepsLeft

/-- A step of the handler of event `k`. -/
def ownStep (k : Nat) : EventAction → Bool
  | .start j | .lookupTx j | .finish j _ => j = k
  | .ruby _ | .report .. => false

section Progress

variable {s s' : EventState} {a : EventAction} {k : Nat}

/-- A handler makes three steps at most: its lookup, a second one, and the end
of its block. -/
theorem stepsLeft_le (s : EventState) (k : Nat) : s.stepsLeft k ≤ 3 := by
  rw [EventState.stepsLeft]
  cases s.flights k with
  | none => exact Nat.zero_le _
  | some f =>
    rcases f with ⟨e, _ | ⟨o, _ | _⟩⟩
    · exact Nat.le_refl 3
    · exact Nat.le_of_ble_eq_true rfl
    · exact Nat.le_of_ble_eq_true rfl

/-- Only the event that a step moves has another number of steps left. -/
theorem stepsLeft_update {j : Nat} {v : Option Flight}
    (hfl : s'.flights = Function.update s.flights j v) :
    s'.stepsLeft k = if k = j then v.elim 0 (fun f => f.phase.stepsLeft) else s.stepsLeft k := by
  rw [EventState.stepsLeft, hfl]
  split
  · rename_i hk
    rw [hk, Function.update_self]
  · rename_i hk
    rw [Function.update_of_ne hk]
    rfl

/-- **Step.** A step of its own handler brings an event closer to its end, and
no other step takes it further away. Handlers do not touch each other's
events, and the program touches none. -/
theorem stepsLeft_step {ob : Option Observation} (h : EventChange s s' a ob)
    (hk : k < s.nextEvent) :
    s'.stepsLeft k + (if ownStep k a = true then 1 else 0) ≤ s.stepsLeft k := by
  -- a step of handler `j` that leaves `v`, which has fewer steps to go
  have hstep : ∀ {j : Nat} {f : Flight} {v : Option Flight}, s.flights j = some f →
      s'.flights = Function.update s.flights j v →
      v.elim 0 (fun f => f.phase.stepsLeft) < f.phase.stepsLeft →
      s'.stepsLeft k + (if decide (j = k) = true then 1 else 0) ≤ s.stepsLeft k := by
    intro j f v hj hfl hlt
    rw [stepsLeft_update hfl]
    by_cases hjk : j = k
    · subst hjk
      rw [if_pos rfl, if_pos (decide_eq_true rfl), EventState.stepsLeft, hj]
      exact hlt
    · rw [if_neg (Ne.symm hjk), if_neg (by simpa using hjk)]
      exact Nat.le_refl _
  cases h with
  | ruby a hpin hchan hfl hnext =>
    rw [EventState.stepsLeft, hfl]
    exact Nat.le_refl _
  | reported n ucEvent bytes o ch hfn hbusy ho hchan hfl hnext =>
    rw [stepsLeft_update hfl, if_neg (Nat.ne_of_lt hk)]
    exact Nat.le_refl _
  | fetchFailed j e hj hreg heq | noBlock j e o ch hj hreg ho hcb heq =>
    subst heq
    exact hstep (v := none) hj rfl (Nat.zero_lt_succ 2)
  | txMissing j e o hj hreg heq =>
    subst heq
    exact hstep (v := none) hj rfl (Nat.zero_lt_succ 1)
  | finished j r e o ch hj ho heq =>
    subst heq
    exact hstep (v := none) hj rfl (Nat.zero_lt_succ 0)
  | txFound j e o p hj hreg heq =>
    subst heq
    exact hstep (v := some ⟨e, .running o false⟩) hj rfl (Nat.lt_succ_self 1)
  | called j e o ch b hj hreg ho hcb heq =>
    subst heq
    refine hstep (v := some ⟨e, .running o (b.looksUp e.ucEvent)⟩) hj rfl ?_
    show (Phase.running o (b.looksUp e.ucEvent)).stepsLeft < 3
    cases b.looksUp e.ucEvent with
    | false => exact Nat.lt_of_succ_lt (Nat.lt_succ_self 2)
    | true => exact Nat.lt_succ_self 2

/-- A handler's step is one of an event in flight. -/
theorem flight_of_ownStep (hs : eventStep s a = some s') (hown : ownStep k a = true) :
    s.flights k ≠ none := by
  intro hnone
  cases a with
  | ruby | report => cases hown
  | start j | lookupTx j | finish j r =>
    obtain rfl : j = k := of_decide_eq_true hown
    rw [eventStep, hnone] at hs
    cases hs

/-- With the collector that looks at the stacks no exception is needed. -/
theorem rooted_eventStep {P : ObjId → Prop} (h : Rooted P s) (hs : eventStep s a = some s') :
    Rooted P s' := by
  have hunpinned : unpinnedStep s a = some s' := by
    cases a with
    | ruby b =>
      rw [eventStep] at hs
      split at hs
      · cases hs
      · exact hs
    | report | start | lookupTx | finish => exact hs
  refine rooted_step h hunpinned ?_
  rintro o rfl hpin
  rw [eventStep, EventState.collectsPinned, if_pos hpin] at hs
  cases hs

/-- An event in flight can go on: what its handler reads has not been freed.
If it waits, its handler can look it up; if a lookup is to come, that can be
made; and otherwise the block can end. -/
theorem ownStep_enabled (h : Rooted (fun _ => False) s) (hk : s.flights k ≠ none) :
    ∃ a t, ownStep k a = true ∧ eventStep s a = some t := by
  obtain ⟨⟨e, ph⟩, hk⟩ := Option.ne_none_iff_exists'.mp hk
  rcases ph with _ | ⟨o, _ | _⟩
  · refine ⟨.start k, ?_⟩
    simp only [ownStep, eventStep, hk, fetchChannel, decide_true, true_and]
    cases hreg : s.chan.registry.lookup (int2fix e.ucANTChannel) with
    | none => exact ⟨_, rfl⟩
    | some o =>
      obtain ⟨ch, -, ho, -⟩ := h.keyed.entry _ o hreg
      simp only [ho, Option.map_some]
      exact ⟨_, rfl⟩
  · refine ⟨.finish k .raised, ?_⟩
    rcases h.running k e o false hk with ⟨ch, ho⟩ | hfalse
    · simp only [ownStep, eventStep, hk, ho, Option.map_some, decide_true, true_and]
      exact ⟨_, rfl⟩
    · exact hfalse.elim
  · refine ⟨.lookupTx k, ?_⟩
    simp only [ownStep, eventStep, hk, decide_true, true_and]
    cases s.chan.registry.lookup (int2fix e.ucANTChannel) with
    | none => exact ⟨_, rfl⟩
    | some p => exact ⟨_, rfl⟩

end Progress

/-- The steps of the handler of event `k` so far, and those to come. -/
structure Served (s : EventState) (as : List EventAction) (k : Nat) : Prop where
  count : as.countP (ownStep k) + s.stepsLeft k ≤ 3
  unreported : s.nextEvent ≤ k → as.countP (ownStep k) = 0

/-- **Run.** Each step of an event's handler is one fewer to come, from its
report to its end. Before the report there is none. -/
theorem served_exec {as : List EventAction} {s : EventState}
    (hrun : Lts.Exec eventStep Lts.Any eventInit as s) (k : Nat) :
    Rooted (fun _ => False) s ∧ Served s as k := by
  induction hrun with
  | nil => exact ⟨rooted_init, Nat.zero_le 3, fun _ => rfl⟩
  | @snoc as s s' a _ _ hs ih =>
    obtain ⟨hroot, hserved⟩ := ih
    have hch := change_of_eventStep hs
    have hcount : (as ++ [a]).countP (ownStep k) =
        as.countP (ownStep k) + if ownStep k a = true then 1 else 0 := by
      rw [List.countP_append, List.countP_singleton]
    by_cases hk : k < s.nextEvent
    · have hdrop := stepsLeft_step hch hk
      have hsum := hserved.count
      refine ⟨rooted_eventStep hroot hs, by omega, fun hle => ?_⟩
      exact absurd (Nat.lt_of_lt_of_le hk hch.nextEvent_le) (Nat.not_lt.mpr hle)
    · -- an event that is not reported yet has no handler
      have hown : ¬ ownStep k a = true := by
        intro hown
        obtain ⟨f, hf⟩ := Option.ne_none_iff_exists'.mp (flight_of_ownStep hs hown)
        exact hk (hroot.bound k f hf)
      have hzero : (as ++ [a]).countP (ownStep k) = 0 := by
        rw [hcount, if_neg hown, hserved.unreported (Nat.le_of_not_lt hk)]
      refine ⟨rooted_eventStep hroot hs, ?_, fun _ => hzero⟩
      rw [hzero, Nat.zero_add]
      exact stepsLeft_le s' k

/-- **Events end.** In every run, whatever the program and the collector do in
between: an event is over after three steps of its handler at most, and until
then one can be taken, which brings it closer to the end. -/
theorem event_served {as : List EventAction} {s : EventState}
    (hrun : Lts.Exec eventStep Lts.Any eventInit as s) (k : Nat) :
    as.countP (ownStep k) + s.stepsLeft k ≤ 3 ∧
    (s.flights k ≠ none → ∃ a t, ownStep k a = true ∧ eventStep s a = some t ∧
      t.stepsLeft k < s.stepsLeft k) := by
  obtain ⟨hroot, hserved⟩ := served_exec hrun k
  refine ⟨hserved.count, fun hk => ?_⟩
  obtain ⟨a, t, hown, hs⟩ := ownStep_enabled hroot hk
  obtain ⟨f, hf⟩ := Option.ne_none_iff_exists'.mp hk
  have hdrop := stepsLeft_step (change_of_eventStep hs) (hroot.bound k f hf)
  rw [if_pos hown] at hdrop
  exact ⟨a, t, hown, hs, hdrop⟩

/-- An `EVENT_TX` is reported, and the channel is closed before its handler
looks it up. -/
def closedBeforeLookup : List EventAction :=
  [.ruby (.assignChannel ⟨.int 3, .int 0, .nil, .nil, .nil⟩ true),
    .ruby (.onEvent 0 (some .handleEventCallback)), .report 3 eventTx ⟨[], Nat.zero_le _⟩,
    .start 0, .ruby (.close 0 .nil true)]

/-- The lookup of `on_event_tx` fails, which is a step as well: the event is
brought to its end by the exception. -/
theorem event_served_closedBeforeLookup : ∃ s,
    Lts.Exec eventStep Lts.Any eventInit closedBeforeLookup s ∧ s.stepsLeft 0 = 2 ∧
    ∃ a t, ownStep 0 a = true ∧ eventStep s a = some t ∧ t.stepsLeft 0 < 2 := by
  have hrun : (Lts.runIf eventStep (fun _ _ => true) eventInit closedBeforeLookup).map
      (fun s => (s.stepsLeft 0, (s.flights 0).isSome)) = some (2, true) := by
    decide +kernel
  obtain ⟨s, hexec, hval⟩ := Lts.exec_of_computed hrun
  obtain ⟨hleft, hsome⟩ := Prod.mk.inj hval
  obtain ⟨a, t, hown, hs, hlt⟩ :=
    (event_served hexec 0).2 (Option.isSome_iff_ne_none.mp hsome)
  exact ⟨s, hexec, hleft, a, t, hown, hs, hleft ▸ hlt⟩

end AntWireless.Channel
