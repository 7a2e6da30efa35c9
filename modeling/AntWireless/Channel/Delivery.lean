import AntWireless.Channel.Events

/-!
# AntWireless — event delivery

The handler of an event finds the channel object through the registry, and so does
`on_event_tx`. A successful `Channel#close`, `Ant.reset` and `Ant.close` take objects out
of the registry but leave their event functions with the library, which goes on
reporting: `EVENT_CHANNEL_CLOSED` after a close, at least. Assigning a number again puts
an object without a block in its place.

* `KeepsEntry` — the condition under which no registry entry goes while an event may
  still need it.
* `events_delivered` — under it, each event calls the block of its object exactly once,
  and no lookup finds the number missing.
* `closedEvent_dropped` — the event that follows a channel's own close.
-/

namespace AntWireless.Channel

/-- No event function is registered for the number, and no event in flight for
it is in one of the phases. -/
def EventState.Idle (s : EventState) (n : UInt8) (phases : Phase → Bool) : Prop :=
  s.chan.library.eventFn n = none ∧
    ∀ k, k < s.nextEvent → ∀ f ∈ s.flights k,
      phases f.phase = true → f.event.ucANTChannel ≠ n

instance (s : EventState) (n : UInt8) (phases : Phase → Bool) : Decidable (s.Idle n phases) :=
  inferInstanceAs (Decidable (_ ∧ _))

/-- `on_event` is called on registered objects only, and an entry goes from
the registry only while its number is idle. -/
def KeepsEntry (s : EventState) : EventAction → Prop
  | .ruby (.onEvent o (some _)) =>
    ∀ n ∈ s.chan.numberOf o, s.chan.registry.lookup (int2fix n) = some o
  | .ruby (.close o timeout true) =>
    IfOk (fun _ => ∀ n ∈ s.chan.numberOf o, s.Idle n Phase.awaitsLookup) (optionalUint timeout)
  | .ruby .reset | .ruby .antClose => ∀ i, i < 256 → s.Idle (UInt8.ofNat i) Phase.awaitsLookup
  | .ruby (.assignChannel a true) =>
    IfOk (fun c : LibraryCall =>
      ∀ n ∈ c.channel, a.channel = int2fix n → s.Idle n fun ph => ph = .queued) (assignCall a)
  | _ => True

instance (s : EventState) : ∀ a, Decidable (KeepsEntry s a)
  | .ruby (.onEvent _ (some _)) => Option.decidableForallMem _
  | .ruby (.close _ _ true) =>
    @decidableIfOk _ _ (fun _ => Option.decidableForallMem _) _
  | .ruby .reset | .ruby .antClose => Nat.decidableBallLT 256 _
  | .ruby (.assignChannel _ true) =>
    @decidableIfOk _ _ (fun _ => Option.decidableForallMem _) _
  | .ruby (.onEvent _ none) | .ruby (.close _ _ false) | .ruby (.assignChannel _ false)
  | .ruby (.gc _) | .report .. | .start _ | .lookupTx _ | .finish .. =>
    inferInstanceAs (Decidable True)

/-- The block of the object the event was reported to is called, or
`on_event_tx` finds a channel. -/
def Delivered : Observation → Prop
  | .called _ e o _ _ => o = e.buffer
  | .txFound _ _ _ => True
  | .fetchFailed _ _ | .noBlock _ _ | .txMissing _ _ => False

/-- A block is called for event `k`. -/
def callFor (k : Nat) : Observation → Bool
  | .called j _ _ _ _ => j = k
  | _ => false

-- ---------------------------------------------------------------------------
-- The invariant
-- ---------------------------------------------------------------------------

/-- The registry holds the object the library writes to, and the objects the
queued events were written to; and it holds some object where `on_event_tx` is
about to look. -/
structure Kept (s : EventState) : Prop where
  fn : ∀ n o, s.chan.library.eventFn n = some o →
    s.chan.registry.lookup (int2fix n) = some o
  queued : ∀ k e, s.flights k = some ⟨e, .queued⟩ →
    s.chan.registry.lookup (int2fix e.ucANTChannel) = some e.buffer
  tx : ∀ k e o, s.flights k = some ⟨e, .running o true⟩ →
    s.chan.registry.lookup (int2fix e.ucANTChannel) ≠ none
  ptr : ∀ k e o tx, s.flights k = some ⟨e, .running o tx⟩ → o = e.buffer

theorem kept_init : Kept eventInit where
  fn _ _ h := nomatch h
  queued _ _ h := nomatch h
  tx _ _ _ h := nomatch h
  ptr _ _ _ _ h := nomatch h

section Steps

variable {s s' : EventState}

/-- The registry stays; an event function that is set has its object there. -/
theorem kept_sameRegistry (h : Kept s) (hreg : s'.chan.registry = s.chan.registry)
    (hfl : s'.flights = s.flights)
    (hfn : ∀ n o, s'.chan.library.eventFn n = some o →
      s.chan.registry.lookup (int2fix n) = some o) : Kept s' := by
  refine ⟨?_, ?_, ?_, ?_⟩
  · rw [hreg]
    exact hfn
  · rw [hreg, hfl]
    exact h.queued
  · rw [hreg, hfl]
    exact h.tx
  · rw [hfl]
    exact h.ptr

/-- The event functions stay, and so does each entry that something may still
need. An entry that goes, or is given another object, is one whose number is
idle: no event function is set, no event waits, and if the entry is removed no
lookup is to come. -/
theorem kept_idle (hfly : Flying s) (h : Kept s) (hfl : s'.flights = s.flights)
    (hfn : s'.chan.library.eventFn = s.chan.library.eventFn)
    (hentry : ∀ n, s'.chan.registry.lookup (int2fix n) = s.chan.registry.lookup (int2fix n) ∨
      s.Idle n (fun ph => ph = .queued) ∧
        (s'.chan.registry.lookup (int2fix n) ≠ none ∨ s.Idle n Phase.awaitsLookup)) :
    Kept s' := by
  have hbound : ∀ k f, s.flights k = some f → k < s.nextEvent := hfly.bound
  refine ⟨?_, ?_, ?_, ?_⟩
  · intro n o hno
    rw [hfn] at hno
    rcases hentry n with hsame | ⟨hidle, -⟩
    · rw [hsame]
      exact h.fn n o hno
    · rw [hidle.1] at hno
      cases hno
  · intro k e hk
    rw [hfl] at hk
    rcases hentry e.ucANTChannel with hsame | ⟨hidle, -⟩
    · rw [hsame]
      exact h.queued k e hk
    · exact absurd rfl (hidle.2 k (hbound k _ hk) _ hk (decide_eq_true rfl))
  · intro k e o hk
    rw [hfl] at hk
    rcases hentry e.ucANTChannel with hsame | ⟨-, hsome | hidle⟩
    · rw [hsame]
      exact h.tx k e o hk
    · exact hsome
    · exact absurd rfl (hidle.2 k (hbound k _ hk) _ hk rfl)
  · rw [hfl]
    exact h.ptr

/-- A number for which no lookup is to come has no event that waits. -/
theorem EventState.Idle.queued {n : UInt8} (h : s.Idle n Phase.awaitsLookup) :
    s.Idle n fun ph => ph = .queued :=
  ⟨h.1, fun k hk f hf hph => h.2 k hk f hf (by rw [of_decide_eq_true hph]; rfl)⟩

/-- An operation that keeps the entries of the numbers in use. `on_event` sets
the event function to a registered object; the others take an entry away only
where its number is idle. The collector takes no object that the registry
holds. -/
theorem kept_ruby {a : Action} (hfly : Flying s) (h : Kept s)
    (hkeeps : KeepsEntry s (.ruby a)) (hstep : step s.chan a = some s'.chan)
    (hfl : s'.flights = s.flights) : Kept s' := by
  cases change_of_step hstep with
  | unchanged a ha heq =>
    exact kept_sameRegistry h (by rw [heq]) hfl (by rw [heq]; exact h.fn)
  | assigned a c u hc hu hn hobj hid hreg has hfn =>
    simp only [KeepsEntry, hc, ifOk_ok, hn] at hkeeps
    refine kept_idle hfly h hfl hfn fun n => ?_
    rw [hreg]
    by_cases ha : a.channel = int2fix n
    · obtain ⟨m, t, e, x, r, rfl, hchr⟩ := assignCall_eq_ok hc
      rw [ha, num2chr_int2fix, Except.ok.injEq] at hchr
      refine .inr ⟨hkeeps n ?_ ha, .inl ?_⟩
      · rw [← hn, LibraryCall.channel, hchr]
        rfl
      · rw [ha, AList.lookup_insert]
        simp
    · exact .inl (AList.lookup_insert_ne (Ne.symm ha))
  | abandoned a c e n hc he hn hobj hid hreg has hfn =>
    exact kept_sameRegistry h hreg hfl (by rw [hfn]; exact h.fn)
  | closed o ch timeout t ht ho hobj hid hreg hlib =>
    simp only [KeepsEntry, ht, ifOk_ok] at hkeeps
    have hidle := hkeeps ch.channelNum (by rw [State.numberOf, ho]; rfl)
    refine kept_idle hfly h hfl (by rw [hlib]) fun n => ?_
    by_cases hnum : n = ch.channelNum
    · subst hnum
      exact .inr ⟨hidle.queued, .inr hidle⟩
    · rw [hreg]
      exact .inl (AList.lookup_erase_ne (int2fix_injective.ne hnum))
  | cleared a ha hobj hid hreg has hfn =>
    refine kept_idle hfly h hfl hfn fun n => ?_
    have hidle : s.Idle n Phase.awaitsLookup := by
      have hn := UInt8.ofNat_toNat (x := n)
      rcases ha with rfl | rfl
      · exact hn ▸ hkeeps n.toNat n.toNat_lt
      · exact hn ▸ hkeeps n.toNat n.toNat_lt
    exact .inr ⟨hidle.queued, .inr hidle⟩
  | blockSet o ch b ho hobj hid hreg has hfn =>
    have hreg₀ := hkeeps ch.channelNum (by rw [State.numberOf, ho]; rfl)
    refine kept_sameRegistry h hreg hfl fun n p hn => ?_
    rw [hfn] at hn
    rcases update_cases hn with ⟨rfl, hp⟩ | ⟨-, hn⟩
    · rw [← Option.some.inj hp]
      exact hreg₀
    · exact h.fn n p hn
  | freed o ch ho hr hobj hid hreg has hfn =>
    refine kept_sameRegistry h hreg hfl fun n p hn => ?_
    rw [hfn] at hn
    obtain ⟨-, hn⟩ := of_update hn (by simp)
    exact h.fn n p hn

/-- No operation, and no new event but one the library writes to the
registered object: a handler that starts has found its object, and one that
has looked up is done with the registry. -/
theorem kept_event (h : Kept s) (hreg : s'.chan.registry = s.chan.registry)
    (hlib : s'.chan.library = s.chan.library)
    (hqueued : ∀ k e, s'.flights k = some ⟨e, .queued⟩ → s.flights k = some ⟨e, .queued⟩ ∨
      s.chan.library.eventFn e.ucANTChannel = some e.buffer)
    (hrunning : ∀ k e o tx, s'.flights k = some ⟨e, .running o tx⟩ →
      (∃ tx', (tx = true → tx' = true) ∧ s.flights k = some ⟨e, .running o tx'⟩) ∨
        s.flights k = some ⟨e, .queued⟩ ∧
          s.chan.registry.lookup (int2fix e.ucANTChannel) = some o) : Kept s' := by
  refine ⟨?_, ?_, ?_, ?_⟩
  · rw [hreg, hlib]
    exact h.fn
  · intro k e hk
    rw [hreg]
    rcases hqueued k e hk with hk | hn
    · exact h.queued k e hk
    · exact h.fn _ _ hn
  · intro k e o hk
    rw [hreg]
    rcases hrunning k e o true hk with ⟨tx', htx, hk⟩ | ⟨-, hlookup⟩
    · exact h.tx k e o (htx rfl ▸ hk)
    · rw [hlookup]
      simp
  · intro k e o tx hk
    rcases hrunning k e o tx hk with ⟨tx', -, hk⟩ | ⟨hk, hlookup⟩
    · exact h.ptr k e o tx' hk
    · exact Option.some.inj (hlookup.symm.trans (h.queued k e hk))

/-- **Step.** Every step that keeps `KeepsEntry` leaves the registry with the
objects that the handlers will look for. The cases are those of the step: an
operation of the program, a report, and the steps of a handler. -/
theorem kept_step {a : EventAction} (hfly : Flying s) (h : Kept s) (hkeeps : KeepsEntry s a)
    (hs : eventStep s a = some s') : Kept s' := by
  have hch := change_of_eventStep hs
  generalize observe s a = ob at hch
  cases hch with
  | ruby a hpin hchan hfl hnext => exact kept_ruby hfly h hkeeps hchan hfl
  | reported n ucEvent bytes o ch hfn hbusy ho hchan hfl hnext =>
    refine kept_event h (by rw [hchan]; rfl) (by rw [hchan]; rfl) (fun k e hk => ?_)
      fun k e p tx hk => ?_
    · rw [hfl] at hk
      rcases update_cases hk with ⟨-, hf⟩ | ⟨-, hk⟩
      · cases hf
        exact .inr hfn
      · exact .inl hk
    · rw [hfl] at hk
      obtain ⟨-, hk⟩ := of_update hk (by simp)
      exact .inl ⟨tx, id, hk⟩
  | fetchFailed k e hk hreg heq | txMissing k e o hk hreg heq | noBlock k e o ch hk hreg ho hcb heq
  | finished k r e o ch hk ho heq =>
    subst heq
    refine kept_event h rfl rfl (fun j e' hj => ?_) fun j e' p tx hj => ?_
    · obtain ⟨-, hj⟩ := of_update hj (by simp)
      exact .inl hj
    · obtain ⟨-, hj⟩ := of_update hj (by simp)
      exact .inl ⟨tx, id, hj⟩
  | called k e o ch b hk hreg ho hcb heq =>
    subst heq
    refine kept_event h rfl rfl (fun j e' hj => ?_) fun j e' p tx hj => ?_
    · obtain ⟨-, hj⟩ := of_update hj (by simp)
      exact .inl hj
    · rcases update_cases hj with ⟨rfl, hf⟩ | ⟨-, hj⟩
      · cases hf
        exact .inr ⟨hk, hreg⟩
      · exact .inl ⟨tx, id, hj⟩
  | txFound k e o p hk hreg heq =>
    subst heq
    refine kept_event h rfl rfl (fun j e' hj => ?_) fun j e' q tx hj => ?_
    · obtain ⟨-, hj⟩ := of_update hj (by simp)
      exact .inl hj
    · rcases update_cases hj with ⟨rfl, hf⟩ | ⟨-, hj⟩
      · cases hf
        exact .inl ⟨true, fun _ => rfl, hk⟩
      · exact .inl ⟨tx, id, hj⟩

/-- A queued event can be handled, and then calls the block of its object: the
registry holds that object, and it has a block. -/
theorem start_called (hfly : Flying s) (h : Kept s) {k : Nat} {e : Event}
    (hk : s.flights k = some ⟨e, .queued⟩) :
    ∃ t b data, eventStep s (.start k) = some t ∧
      observe s (.start k) = some (.called k e e.buffer b data) := by
  have hreg := h.queued k e hk
  obtain ⟨ch, -, ho, -⟩ := hfly.keyed.entry _ _ hreg
  obtain ⟨b, hcb⟩ := Option.ne_none_iff_exists'.mp ((hfly.target k _ hk).2 ch ho).2
  obtain ⟨hstart, hobs⟩ := start_of_block hk hreg ho hcb
  exact ⟨_, b, _, hstart, hobs⟩

/-- What a step shows is a delivery: the handler of an event that waits finds
the object the event was written to, with its block, and `on_event_tx` finds
some channel. -/
theorem delivered_observe {a : EventAction} (hfly : Flying s) (h : Kept s)
    (hs : eventStep s a = some s') : ∀ ob ∈ observe s a, Delivered ob := by
  have hch := change_of_eventStep hs
  intro ob hob
  cases a with
  | start k =>
    -- whatever is observed is the call of `start_called`
    rw [hob] at hch
    have hk : ∃ e, s.flights k = some ⟨e, .queued⟩ := by
      cases hch with
      | fetchFailed k e hk | noBlock k e o ch hk | called k e o ch b hk => exact ⟨e, hk⟩
    obtain ⟨e, hk⟩ := hk
    obtain ⟨t, b, data, -, hcalled⟩ := start_called hfly h hk
    cases hob.symm.trans hcalled
    rfl
  | lookupTx k =>
    rw [hob] at hch
    cases hch with
    | txMissing k e o hk hreg heq => exact absurd hreg (h.tx k e o hk)
    | txFound k e o p hk hreg heq => trivial
  | ruby | report | finish => cases hob

end Steps

-- ---------------------------------------------------------------------------
-- Runs
-- ---------------------------------------------------------------------------

/-- Each reported event waits and has called no block, or has called one. -/
structure Tally (s : EventState) (log : List Observation) : Prop where
  once : ∀ k, k < s.nextEvent →
    log.countP (callFor k) = 0 ∧ (∃ e, s.flights k = some ⟨e, .queued⟩) ∨
      log.countP (callFor k) = 1 ∧ ∀ e, s.flights k ≠ some ⟨e, .queued⟩
  unreported : ∀ k, s.nextEvent ≤ k → log.countP (callFor k) = 0

theorem tally_init : Tally eventInit [] where
  once k hk := absurd hk (Nat.not_lt_zero k)
  unreported _ _ := rfl

section Tally

variable {s s' : EventState} {log : List Observation}

/-- A step that calls no block, reports no event and leaves the queued events alone. -/
theorem Tally.quiet {ob : Option Observation} (h : Tally s log)
    (hnext : s'.nextEvent = s.nextEvent) (hob : ∀ k, ob.toList.countP (callFor k) = 0)
    (hfl : ∀ k e, s'.flights k = some ⟨e, .queued⟩ ↔ s.flights k = some ⟨e, .queued⟩) :
    Tally s' (log ++ ob.toList) := by
  constructor
  · intro k hk
    rw [hnext] at hk
    rw [List.countP_append, hob]
    simp only [hfl, Nat.add_zero, ne_eq]
    exact h.once k hk
  · intro k hk
    rw [hnext] at hk
    rw [List.countP_append, hob]
    exact h.unreported k hk

/-- A flight that is not queued moves or lands. -/
theorem queued_update_iff {k : Nat} {v : Option Flight}
    (hold : ∀ e, s.flights k ≠ some ⟨e, .queued⟩) (hnew : ∀ e, v ≠ some ⟨e, .queued⟩) (j : Nat)
    (e : Event) :
    Function.update s.flights k v j = some ⟨e, .queued⟩ ↔ s.flights j = some ⟨e, .queued⟩ := by
  by_cases hj : j = k
  · subst hj
    rw [Function.update_self]
    exact ⟨fun h => absurd h (hnew e), fun h => absurd h (hold e)⟩
  · rw [Function.update_of_ne hj]

/-- **Step.** A report makes the next event, which waits; the handler of an
event that waits calls its block, and the event waits no more; every other
step calls no block and moves no event that waits. -/
theorem tally_step {a : EventAction} (hfly : Flying s) (hkept : Kept s) (h : Tally s log)
    (hs : eventStep s a = some s') : Tally s' (log ++ (observe s a).toList) := by
  have hch := change_of_eventStep hs
  have hdel := delivered_observe hfly hkept hs
  generalize observe s a = ob at hch hdel
  cases hch with
  | ruby a hpin hchan hfl hnext =>
    exact h.quiet hnext (fun _ => rfl) fun k e => by rw [hfl]
  | reported n ucEvent bytes o ch hfn hbusy ho hchan hfl hnext =>
    rw [Option.toList_none, List.append_nil]
    constructor
    · intro k hk
      rw [hfl]
      by_cases hkn : k = s.nextEvent
      · subst hkn
        rw [Function.update_self]
        exact .inl ⟨h.unreported _ le_rfl, _, rfl⟩
      · rw [Function.update_of_ne hkn]
        exact h.once k (by omega)
    · intro k hk
      exact h.unreported k (by omega)
  | fetchFailed k e | noBlock k e | txMissing k e => exact absurd (hdel _ rfl) id
  | called k e o ch b hk hreg ho hcb heq =>
    subst heq
    have hcount : ∀ j, [Observation.called k e o b ch.eventData].countP (callFor j) =
        if k = j then 1 else 0 := by
      intro j
      simp [callFor, List.countP_cons]
    rw [Option.toList_some]
    constructor
    · intro j hj
      rw [List.countP_append, hcount]
      show _ ∧ (∃ e', Function.update s.flights k _ j = _) ∨
        _ ∧ ∀ e', Function.update s.flights k _ j ≠ _
      by_cases hjk : j = k
      · subst hjk
        rw [if_pos rfl, Function.update_self]
        rcases h.once j hj with ⟨hzero, -⟩ | ⟨-, hnot⟩
        · exact .inr ⟨by rw [hzero], by simp⟩
        · exact absurd hk (hnot e)
      · rw [if_neg (Ne.symm hjk), Function.update_of_ne hjk]
        exact h.once j hj
    · intro j hj
      have hlt : k < s.nextEvent := hfly.bound k _ hk
      rw [List.countP_append, hcount, if_neg (Nat.ne_of_lt (Nat.lt_of_lt_of_le hlt hj))]
      exact h.unreported j hj
  | txFound k e o p hk hreg heq =>
    subst heq
    refine h.quiet rfl (fun j => rfl) (queued_update_iff ?_ ?_)
    · simp [hk]
    · simp
  | finished k r e o ch hk ho heq =>
    subst heq
    refine h.quiet rfl (fun _ => rfl) (queued_update_iff ?_ ?_)
    · simp [hk]
    · simp

end Tally

/-- **Run.** The three invariants together, with all that was seen on the way. -/
theorem kept_exec {as : List EventAction} {s : EventState} {log : List Observation}
    (hrun : Lts.Exec (Lts.logged eventStep observe) (fun x a => KeepsEntry x.1 a)
      (eventInit, []) as (s, log)) :
    Flying s ∧ Kept s ∧ Tally s log ∧ ∀ ob ∈ log, Delivered ob := by
  refine hrun.invariant
    (I := fun x => Flying x.1 ∧ Kept x.1 ∧ Tally x.1 x.2 ∧ ∀ ob ∈ x.2, Delivered ob) ?_
    ⟨flying_init, kept_init, tally_init, List.forall_mem_nil _⟩
  rintro ⟨t, l⟩ a ⟨t', l'⟩ ⟨hfly, hkept, htally, hlog⟩ hkeeps hs
  obtain ⟨hstep, rfl⟩ := Lts.logged_eq_some.mp hs
  refine ⟨flying_step hfly hstep, kept_step hfly hkept hkeeps hstep,
    tally_step hfly hkept htally hstep, fun ob hob => ?_⟩
  rcases List.mem_append.mp hob with hob | hob
  · exact hlog ob hob
  · exact delivered_observe hfly hkept hstep ob (Option.mem_toList.mp hob)

/-- **Event delivery.** In every run whose steps keep `KeepsEntry`: no lookup
finds the number missing, and a block is only called for an event reported to
its object; each reported event has called that block exactly once, or still
waits for its handler; and the handler of one that waits can run, and will
call the block of its object. -/
theorem events_delivered {as : List EventAction} {s : EventState} {log : List Observation}
    (hrun : Lts.Exec (Lts.logged eventStep observe) (fun x a => KeepsEntry x.1 a)
      (eventInit, []) as (s, log)) :
    (∀ ob ∈ log, Delivered ob) ∧
    (∀ k, k < s.nextEvent →
      log.countP (callFor k) = 1 ∨
        log.countP (callFor k) = 0 ∧ ∃ e, s.flights k = some ⟨e, .queued⟩) ∧
    ∀ k e, s.flights k = some ⟨e, .queued⟩ → ∃ t b data, eventStep s (.start k) = some t ∧
      observe s (.start k) = some (.called k e e.buffer b data) := by
  obtain ⟨hfly, hkept, htally, hlog⟩ := kept_exec hrun
  refine ⟨hlog, fun k hk => ?_, fun k e hk => start_called hfly hkept hk⟩
  rcases htally.once k hk with ⟨hzero, hwaits⟩ | ⟨hone, -⟩
  · exact .inr ⟨hzero, hwaits⟩
  · exact .inl hone

/-- A channel with the default handlers; one event is handled, another one waits. -/
def handledEvent : List EventAction :=
  [.ruby (.assignChannel ⟨.int 3, .int 0, .nil, .nil, .nil⟩ true),
    .ruby (.onEvent 0 (some .handleEventCallback)), .report 3 eventTx ⟨[], by decide⟩,
    .start 0, .lookupTx 0, .finish 0 (.returned .nil), .report 3 eventRxFail ⟨[], by decide⟩]

/-- The default handlers: one event has been handled, and the handler of
another one can run. -/
theorem events_delivered_handledEvent : ∃ s log,
    Lts.Exec (Lts.logged eventStep observe) (fun x a => KeepsEntry x.1 a) (eventInit, [])
      handledEvent (s, log) ∧
    s.nextEvent = 2 ∧ s.flights 1 = some ⟨⟨3, eventRxFail, 0, ⟨[], by decide⟩⟩, .queued⟩ ∧
    (∀ ob ∈ log, Delivered ob) ∧
    ∃ t b data, eventStep s (.start 1) = some t ∧ observe s (.start 1) =
      some (.called 1 ⟨3, eventRxFail, 0, ⟨[], by decide⟩⟩ 0 b data) := by
  have hrun : (Lts.runIf (Lts.logged eventStep observe) (fun x a => decide (KeepsEntry x.1 a))
      (eventInit, []) handledEvent).map (fun x => (x.1.nextEvent, x.1.flights 1)) =
      some (2, some ⟨⟨3, eventRxFail, 0, ⟨[], by decide⟩⟩, .queued⟩) := by
    decide +kernel
  obtain ⟨⟨s, log⟩, hexec, hval⟩ := Lts.exec_of_checked hrun
  obtain ⟨hnext, hwaits⟩ := Prod.mk.inj hval
  obtain ⟨hlog, -, hstart⟩ := events_delivered hexec
  exact ⟨s, log, hexec, hnext, hwaits, hlog, hstart 1 _ hwaits⟩

/-- A channel with a block is closed, and the library reports that it was. -/
def closedEvent : List EventAction :=
  [.ruby (.assignChannel ⟨.int 3, .int 0, .nil, .nil, .nil⟩ true),
    .ruby (.onEvent 0 (some .handleEventCallback)), .ruby (.close 0 .nil true),
    .report 3 eventChannelClosed ⟨[], by decide⟩, .start 0]

/-- **A dropped event.** The lookup for the `EVENT_CHANNEL_CLOSED` that
follows a channel's own close fails: `close` has deleted the entry. -/
theorem closedEvent_dropped : ∃ s log,
    Lts.Exec (Lts.logged eventStep observe) Lts.Any (eventInit, []) closedEvent (s, log) ∧
    log = [.fetchFailed 0 ⟨3, eventChannelClosed, 0, ⟨[], by decide⟩⟩] ∧
    s.flights 0 = none ∧ log.countP (callFor 0) = 0 ∧ ¬ ∀ ob ∈ log, Delivered ob := by
  have hrun : (Lts.runIf (Lts.logged eventStep observe) (fun _ _ => true)
      (eventInit, []) closedEvent).map (fun x => (x.1.flights 0, x.2)) =
      some (none, [.fetchFailed 0 ⟨3, eventChannelClosed, 0, ⟨[], by decide⟩⟩]) := by
    decide +kernel
  obtain ⟨⟨s, log⟩, hexec, hval⟩ := Lts.exec_of_computed hrun
  obtain ⟨hlanded, rfl⟩ := Prod.mk.inj hval
  refine ⟨s, _, hexec, rfl, hlanded, rfl, fun h => ?_⟩
  exact h _ (List.mem_singleton.mpr rfl)

-- ---------------------------------------------------------------------------
-- Every other removal can drop an event
-- ---------------------------------------------------------------------------

section Dropping

variable {s s' : EventState}

/-- A queued event of a number that the registry does not hold for its object.
Its handler finds no channel, or one that is not the event's: in either case
the block of the event's object is not called. -/
theorem canObserve_dropped (hkey : Keyed s.chan) {k : Nat} {e : Event}
    (hk : s.flights k = some ⟨e, .queued⟩)
    (hne : s.chan.registry.lookup (int2fix e.ucANTChannel) ≠ some e.buffer) :
    Lts.CanObserve eventStep observe (fun ob => ¬ Delivered ob) s := by
  cases hreg : s.chan.registry.lookup (int2fix e.ucANTChannel) with
  | none =>
    have hstart : eventStep s (.start k) = some (s.land k) := by
      simp only [eventStep, hk, fetchChannel, hreg]
    have hobs : observe s (.start k) = some (.fetchFailed k e) := by
      simp only [observe, hk, fetchChannel, hreg]
    exact .now hstart hobs id
  | some p =>
    obtain ⟨ch, -, hp, -⟩ := hkey.entry _ p hreg
    cases hcb : ch.callback with
    | none =>
      have hstart : eventStep s (.start k) =
          some { s.land k with chan := s.chan.setObject p ch.clearBuffer } := by
        simp only [eventStep, hk, fetchChannel, hreg, hp, Option.map_some, hcb]
      have hobs : observe s (.start k) = some (.noBlock k e) := by
        simp only [observe, hk, fetchChannel, hreg, hp, Option.map_some, hcb]
      exact .now hstart hobs id
    | some b =>
      obtain ⟨hstart, hobs⟩ := start_of_block hk hreg hp hcb
      refine .now hstart hobs fun hd => hne ?_
      rw [hreg, show p = e.buffer from hd]

/-- `on_event_tx` is about to look a number up that the registry does not hold. -/
theorem canObserve_txMissing {k : Nat} {e : Event} {o : ObjId}
    (hk : s.flights k = some ⟨e, .running o true⟩)
    (hreg : s.chan.registry.lookup (int2fix e.ucANTChannel) = none) :
    Lts.CanObserve eventStep observe (fun ob => ¬ Delivered ob) s := by
  have hlookup : eventStep s (.lookupTx k) = some (s.land k) := by
    simp only [eventStep, hk, hreg]
  have hobs : observe s (.lookupTx k) = some (.txMissing k e) := by
    simp only [observe, hk, hreg]
  exact .now hlookup hobs id

/-- The library's event function for a number is set to an object that the
registry does not hold for it. What runs in the object's buffer can be brought
to its end, and then the next event for the number is dropped. -/
theorem canObserve_of_pointer (hfly : Flying s)
    (hptr : ∀ k e o tx, s.flights k = some ⟨e, .running o tx⟩ → o = e.buffer)
    {n : UInt8} {o : ObjId} (hfn : s.chan.library.eventFn n = some o)
    (hne : s.chan.registry.lookup (int2fix n) ≠ some o) :
    Lts.CanObserve eventStep observe (fun ob => ¬ Delivered ob) s := by
  obtain ⟨ch, ho, hnum, -⟩ := hfly.keyed.pointer n o hfn
  have hnumber : ∀ j e ph, s.flights j = some ⟨e, ph⟩ → e.buffer = o → e.ucANTChannel = n := by
    intro j e ph hj hbuf
    rw [← ((hfly.target j _ hj).2 ch (hbuf ▸ ho)).1, hnum]
  by_contra hcannot
  -- an event in the buffer of `o` that would be dropped itself is not there
  refine hcannot (canObserve_of_report hfly hfn (fun j e ph hj hbuf => ?_)
    fun t k e hsame hk hen hbuf => ?_)
  · cases ph with
    | queued =>
      refine absurd (canObserve_dropped hfly.keyed hj ?_) hcannot
      rw [hnumber j e _ hj hbuf, hbuf]
      exact hne
    | running q tx =>
      refine ⟨tx, by rw [hptr j e q tx hj, hbuf], fun htx hnone => ?_⟩
      subst htx
      exact hcannot (canObserve_txMissing hj hnone)
  · refine canObserve_dropped (hfly.keyed.of_sameShape hsame) hk ?_
    rw [hsame.registry, hen, hbuf]
    exact hne

/-- A number is not idle and its entry goes: an event for it waits, a lookup
of `on_event_tx` is to come, or the library will report one more. Each of the
three drops an event. -/
theorem canObserve_of_removed (hfly' : Flying s')
    (hptr : ∀ k e o tx, s'.flights k = some ⟨e, .running o tx⟩ → o = e.buffer)
    (hfl : s'.flights = s.flights)
    (hfn : s'.chan.library.eventFn = s.chan.library.eventFn) {n : UInt8}
    (hreg : s'.chan.registry.lookup (int2fix n) = none) (hbad : ¬ s.Idle n Phase.awaitsLookup) :
    Lts.CanObserve eventStep observe (fun ob => ¬ Delivered ob) s' := by
  rcases not_and_or.mp hbad with hset | hwaits
  · obtain ⟨o, ho⟩ := Option.ne_none_iff_exists'.mp hset
    refine canObserve_of_pointer hfly' hptr (hfn ▸ ho) ?_
    rw [hreg]
    simp
  · simp only [not_forall, not_not] at hwaits
    obtain ⟨k, -, ⟨e, ph⟩, hk, hph, rfl⟩ := hwaits
    have hk' : s'.flights k = some ⟨e, ph⟩ := by rw [hfl]; exact hk
    cases ph with
    | queued =>
      refine canObserve_dropped hfly'.keyed hk' ?_
      rw [hreg]
      simp
    | running o tx =>
      cases tx with
      | false => cases hph
      | true => exact canObserve_txMissing hk' hreg

/-- A call that raises before it has done anything takes no entry away. -/
theorem keepsEntry_of_rejected {s : EventState} {a : Action} (ha : Rejected a) :
    KeepsEntry s (.ruby a) := by
  cases a with
  | assignChannel a ok =>
    rcases ha with rfl | ⟨e, he⟩
    · trivial
    · cases ok with
      | false => trivial
      | true => simp only [KeepsEntry, he, ifOk_error]
  | close o timeout ok =>
    rcases ha with rfl | ⟨e, he⟩
    · trivial
    · cases ok with
      | false => trivial
      | true => simp only [KeepsEntry, he, ifOk_error]
  | onEvent o block =>
    cases ha
    trivial
  | reset | antClose | gc o => exact absurd ha id

/-- **No weaker condition will do.** After any step that breaks `KeepsEntry`
some continuation drops an event. The step is an `on_event` on an object that
is not registered, or one that takes an entry from a number in use; the cases
are the operations that can do so. -/
theorem removedEntry_drops {as : List EventAction} {log : List Observation} {a : EventAction}
    (hrun : Lts.Exec (Lts.logged eventStep observe) (fun x a => KeepsEntry x.1 a)
      (eventInit, []) as (s, log))
    (hs : eventStep s a = some s') (hbad : ¬ KeepsEntry s a) :
    ∃ bs t log', Lts.Exec (Lts.logged eventStep observe) Lts.Any (s', []) bs (t, log') ∧
      ∃ ob ∈ log', ¬ Delivered ob := by
  refine Lts.CanObserve.exists_exec ?_ []
  obtain ⟨hfly, hkept, -⟩ := kept_exec hrun
  have hfly' := flying_step hfly hs
  have hch := change_of_eventStep hs
  generalize observe s a = ob at hch
  cases hch with
  | ruby a hpin hchan hfl hnext =>
    have hptr : ∀ k e o tx, s'.flights k = some ⟨e, .running o tx⟩ → o = e.buffer := by
      rw [hfl]
      exact hkept.ptr
    cases change_of_step hchan with
    | unchanged a ha heq => exact absurd (keepsEntry_of_rejected ha) hbad
    | assigned a c u hc hu hn hobj hid hreg has hfn =>
      simp only [KeepsEntry, hc, ifOk_ok, not_forall] at hbad
      obtain ⟨n, -, ha, hbad⟩ := hbad
      -- the new object has the number, and nothing was written to it
      have hlookup : ∀ o, o < s.chan.nextId →
          s'.chan.registry.lookup (int2fix n) ≠ some o := by
        intro o hlt heq
        rw [hreg, ← ha, AList.lookup_insert, Option.some.injEq] at heq
        exact Nat.ne_of_lt hlt heq.symm
      rcases not_and_or.mp hbad with hset | hwaits
      · obtain ⟨o, ho⟩ := Option.ne_none_iff_exists'.mp hset
        obtain ⟨ch, hch, -⟩ := hfly.keyed.pointer n o ho
        exact canObserve_of_pointer hfly' hptr (hfn ▸ ho)
          (hlookup o (hfly.keyed.fresh o ch hch))
      · simp only [not_forall, not_not] at hwaits
        obtain ⟨k, -, ⟨e, ph⟩, hk, hph, rfl⟩ := hwaits
        have hk' : s'.flights k = some ⟨e, .queued⟩ := by
          rw [hfl, ← of_decide_eq_true hph]
          exact hk
        exact canObserve_dropped hfly'.keyed hk' (hlookup _ (hfly.target k _ hk).1)
    | abandoned a c e n hc he hn hobj hid hreg has hfn =>
      simp only [KeepsEntry, hc, ifOk_ok, not_forall] at hbad
      obtain ⟨m, -, ha, -⟩ := hbad
      rw [ha, num2ushort_int2fix] at he
      cases he
    | closed o ch timeout t ht ho hobj hid hreg hlib =>
      simp only [KeepsEntry, ht, ifOk_ok, not_forall] at hbad
      obtain ⟨n, hn, hbad⟩ := hbad
      rw [State.numberOf, ho, Option.map_some, Option.mem_some_iff] at hn
      subst hn
      exact canObserve_of_removed hfly' hptr hfl (by rw [hlib]) (by rw [hreg]; simp) hbad
    | cleared a ha hobj hid hreg has hfn =>
      have hbad' : ∃ n, ¬ s.Idle n Phase.awaitsLookup := by
        rcases ha with rfl | rfl
        · simp only [KeepsEntry, not_forall] at hbad
          obtain ⟨i, -, hbad⟩ := hbad
          exact ⟨_, hbad⟩
        · simp only [KeepsEntry, not_forall] at hbad
          obtain ⟨i, -, hbad⟩ := hbad
          exact ⟨_, hbad⟩
      obtain ⟨n, hbad⟩ := hbad'
      exact canObserve_of_removed hfly' hptr hfl hfn (by rw [hreg]; simp) hbad
    | blockSet o ch b ho hobj hid hreg has hfn =>
      simp only [KeepsEntry, not_forall] at hbad
      obtain ⟨n, hn, hbad⟩ := hbad
      rw [State.numberOf, ho, Option.map_some, Option.mem_some_iff] at hn
      subst hn
      refine canObserve_of_pointer hfly' hptr (o := o) ?_ (by rw [hreg]; exact hbad)
      rw [hfn, Function.update_self]
    | freed => exact absurd trivial hbad
  | _ => exact absurd trivial hbad

end Dropping

end AntWireless.Channel
