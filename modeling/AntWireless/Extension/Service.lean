import AntWireless.Callbacks.Quiescence
import AntWireless.Channel.Memory
import AntWireless.Extension.Refinement

/-!
# AntWireless — every report is served

After the library has reported an event or a response, the threads of the extension have a
bounded amount of work before it can report the next: whatever is scheduled, and whatever the
program and the collector do meanwhile. They stop only when the receive thread is back.

* `Action.isWork` — the steps of threads that are already at it.
* `workLeft` — the rank: that of the protocol, with the steps of the running block in between.
* `reports_served` — the bound, and where the work ends.
-/

namespace AntWireless.Extension

open Callbacks (NodePtr HandlerAt phase)
open Channel (EventState EventAction Rooted eventStep)
open Response (SessionAction)

-- ---------------------------------------------------------------------------
-- Work
-- ---------------------------------------------------------------------------

/-- Not a report, not a spurious wake-up, not an abort request, not the program. -/
def Action.isWork : Action → Bool
  | .enter _ _ _ | .lookupTx _ _ | .finish _ _ _ | .leave _ _ => true
  | .proto a => a.isWork
  | _ => false

/-- Work, an operation of the program on its channels or its response
callback, or the collector. -/
def Undisturbed (_ : State) (a : Action) : Prop :=
  a.isWork = true ∨ (∃ b, a = .ruby b) ∨ ∃ b, a = .onResponse b

/-- No thread has any work left. -/
def Stuck (t₀ : Nat) (x : State) : Prop := ∀ a : Action, a.isWork = true → step t₀ x a = none

/-- The steps of a function before its end. -/
def Body.stepsLeft : Body → Nat
  | .block _ true => 2
  | .block _ false | .responding => 1
  | .ended _ => 0

def bodyLeft : Option (Frame × Option Body) → Nat
  | some (_, some b) => b.stepsLeft
  | _ => 0

/-- The protocol starts a function with one step, and pays for those in
between with it. -/
def workLeft (t₀ : Nat) (x : State) : Nat := 3 * x.proto.rank {t₀} + bodyLeft (x.job t₀)

section Steps

variable {t₀ : Nat} {x x' : State}

theorem quiet_of_undisturbed {a : Action} (h : Undisturbed x a) : Quiet x a := by
  rintro rfl
  rcases h with h | ⟨b, hb⟩ | ⟨b, hb⟩
  · cases h
  · cases hb
  · cases hb

theorem Body.stepsLeft_le (b : Body) : b.stepsLeft ≤ 2 := by
  rcases b with ⟨o, _ | _⟩ | _ | _ <;> simp [Body.stepsLeft]

theorem bodyLeft_le (j : Option (Frame × Option Body)) : bodyLeft j ≤ 2 := by
  rcases j with _ | ⟨f, _ | b⟩
  · exact Nat.zero_le 2
  · exact Nat.zero_le 2
  · exact b.stepsLeft_le

/-- A step of the protocol lowers its rank. -/
theorem Ok.rank_lt {a : Callbacks.Action} {p : Callbacks.State} (h : Ok t₀ x)
    (hw : a.isWork = true) (hs : Callbacks.step x.proto a = some p) :
    p.rank {t₀} < x.proto.rank {t₀} := by
  obtain ⟨hen, rfl⟩ := Callbacks.step_eq_some.mp hs
  refine Callbacks.rank_lt h.one.calm.toInv (fun t ht => ?_) hw hen
  rw [Finset.mem_singleton]
  by_contra hne
  exact ht (h.one.single t hne)

/-- The running function takes a step. -/
theorem workLeft_move {n : NodePtr} {i : Nat} {b b' : Body} (h : Ok t₀ x)
    (hi : HandlerAt x.proto n i .running) (hb : x.bodies (n, i) = some b)
    (hproto : x'.proto = x.proto) (hframes : x'.frames = x.frames)
    (hbodies : x'.bodies = Function.update x.bodies (n, i) (some b'))
    (hlt : b'.stepsLeft < b.stepsLeft) : workLeft t₀ x' + 1 ≤ workLeft t₀ x := by
  obtain ⟨hn, rfl, hrun⟩ := h.one.phase_running hi
  obtain ⟨f, hf⟩ := h.frame n.call (.inr hrun)
  rw [hn] at hb
  have hold := job_running hrun hf hb
  have hnew : x'.job t₀ = some (f, some b') :=
    job_running (hproto ▸ hrun) (hframes ▸ hf) (by rw [hbodies, hn]; exact Function.update_self ..)
  rw [workLeft, workLeft, hproto, hold, hnew]
  show 3 * _ + b'.stepsLeft + 1 ≤ 3 * _ + b.stepsLeft
  omega

/-- A thread starts its function: the protocol's step pays for the steps
inside, which are two at most, with the third that it counts for. -/
theorem workLeft_enter {n : NodePtr} {i depth : Nat} (h : Ok t₀ x)
    (hs : step t₀ x (.enter n i depth) = some x') : workLeft t₀ x' + 1 ≤ workLeft t₀ x := by
  rw [step] at hs
  obtain ⟨p, hp, hs⟩ := Option.bind_eq_some_iff.mp hs
  have hlt := h.rank_lt rfl hp
  have hproto : x'.proto = p := by
    split at hs
    · obtain ⟨y, -, rfl⟩ := Option.map_eq_some_iff.mp hs
      rfl
    · obtain rfl := Option.some.inj hs
      rfl
    · cases hs
  obtain ⟨-, -, hsub, -⟩ := h.one.phase_run hp
  obtain ⟨f, hf⟩ := h.frame n.call (.inl hsub)
  have hle := bodyLeft_le (x'.job t₀)
  rw [workLeft, workLeft, hproto, job_submitted hsub hf]
  show 3 * _ + bodyLeft (x'.job t₀) + 1 ≤ 3 * _ + 0
  omega

/-- A thread leaves its function, when none of these is left. -/
theorem workLeft_leave {n : NodePtr} {i : Nat} (h : Ok t₀ x)
    (hs : step t₀ x (.leave n i) = some x') : workLeft t₀ x' + 1 ≤ workLeft t₀ x := by
  rw [step] at hs
  split at hs
  · rename_i r hb
    obtain ⟨p, hp, rfl⟩ := Option.map_eq_some_iff.mp hs
    obtain ⟨-, -, -, hfin⟩ := h.one.phase_end hp
    have hlt := h.rank_lt rfl hp
    have hnew : State.job { x with proto := p } t₀ = none := job_finished hfin
    rw [workLeft, workLeft, hnew]
    show 3 * p.rank {t₀} + 0 + 1 ≤ _
    omega
  · cases hs

/-- A thread of the protocol goes on outside the functions. -/
theorem workLeft_proto {a : Callbacks.Action} (h : Ok t₀ x) (hw : a.isWork = true)
    (hs : step t₀ x (.proto a) = some x') : workLeft t₀ x' + 1 ≤ workLeft t₀ x := by
  obtain ⟨ha, hs⟩ := Option.ite_none_right_eq_some.mp hs
  obtain ⟨p, hp, rfl⟩ := Option.map_eq_some_iff.mp hs
  have hlt := h.rank_lt hw hp
  have hbody : bodyLeft (State.job { x with proto := p } t₀) ≤ bodyLeft (x.job t₀) := by
    rcases h.one.phase_internal ha (by rintro rfl; cases hw) hp with hsame | ⟨k, r, -, hidle⟩
    · have hjob : State.job { x with proto := p } t₀ = x.job t₀ := job_congr hsame rfl rfl
      rw [hjob]
    · rw [show State.job { x with proto := p } t₀ = none from job_idle hidle]
      exact Nat.zero_le _
  rw [workLeft, workLeft]
  show 3 * p.rank {t₀} + _ + 1 ≤ _
  omega

/-- **Step.** Work lowers what is left, and nothing else raises it: the
program and the collector touch neither the protocol nor the stacks. The cases
are the actions of the threads. -/
theorem workLeft_step {a : Action} (h : Ok t₀ x) (hu : Undisturbed x a)
    (hs : step t₀ x a = some x') :
    workLeft t₀ x' + (if a.isWork = true then 1 else 0) ≤ workLeft t₀ x := by
  cases a with
  | ruby a =>
    obtain ⟨c, -, rfl⟩ := Option.map_eq_some_iff.mp (Option.ite_none_left_eq_some.mp hs).2
    exact Nat.le_refl (workLeft t₀ x)
  | onResponse block =>
    have hsame : workLeft t₀ x' = workLeft t₀ x := by
      cases block with
      | none =>
        obtain rfl := Option.some.inj hs
        rfl
      | some b =>
        obtain rfl := Option.some.inj hs
        rfl
    exact Nat.le_of_eq hsame
  | event n ucEvent bytes | response m =>
    rcases hu with h | ⟨b, hb⟩ | ⟨b, hb⟩
    · cases h
    · cases hb
    · cases hb
  | enter n i depth => exact workLeft_enter h hs
  | lookupTx n i =>
    obtain ⟨hi, hs⟩ := Option.ite_none_right_eq_some.mp hs
    split at hs
    · rename_i k e o hf hb
      cases hreg : x.chan.registry.lookup (Channel.int2fix e.ucANTChannel) with
      | none =>
        rw [hreg] at hs
        obtain rfl := Option.some.inj hs
        exact workLeft_move h hi hb rfl rfl rfl (by simp [Body.stepsLeft])
      | some q =>
        rw [hreg] at hs
        obtain rfl := Option.some.inj hs
        exact workLeft_move h hi hb rfl rfl rfl (by simp [Body.stepsLeft])
    · cases hs
  | finish n i r =>
    obtain ⟨hi, hs⟩ := Option.ite_none_right_eq_some.mp hs
    split at hs
    · rename_i o hb
      obtain ⟨ch, -, rfl⟩ := Option.map_eq_some_iff.mp hs
      exact workLeft_move h hi hb rfl rfl rfl Nat.one_pos
    · rename_i hb
      obtain rfl := Option.some.inj hs
      exact workLeft_move h hi hb rfl rfl rfl Nat.one_pos
    · cases hs
  | leave n i => exact workLeft_leave h hs
  | proto a =>
    have hw : a.isWork = true := by
      rcases hu with hu | ⟨b, hb⟩ | ⟨b, hb⟩
      · exact hu
      · cases hb
      · cases hb
    rw [show Action.isWork (.proto a) = true from hw, if_pos rfl]
    exact workLeft_proto h hw hs

end Steps

-- ---------------------------------------------------------------------------
-- The end of the work
-- ---------------------------------------------------------------------------

section Ends

variable {t₀ : Nat} {x x' : State}

/-- The invariant, and what a handler reads has not been freed. -/
structure Sound (t₀ : Nat) (x : State) : Prop extends Ok t₀ x where
  rooted : Rooted (fun _ => False) (abstraction t₀ x).1

theorem sound_init (t₀ : Nat) : Sound t₀ init := ⟨ok_init t₀, Channel.rooted_init⟩

/-- **Step.** The specification follows, and in it nothing that a handler
reads is freed. -/
theorem sound_step {a : Action} (h : Sound t₀ x) (hq : Quiet x a) (hs : step t₀ x a = some x') :
    Sound t₀ x' := by
  obtain ⟨hok, hmatch⟩ := follows_step h.toOk hq hs
  refine ⟨hok, ?_⟩
  cases hobs : observe x a with
  | none =>
    rw [hobs] at hmatch
    rw [hmatch]
    exact h.rooted
  | some b =>
    rw [hobs] at hmatch
    cases b with
    | inl e => exact Channel.rooted_eventStep h.rooted (Lts.beside_inl.mp hmatch.2).1
    | inr e =>
      rw [(Lts.beside_inr.mp hmatch.2).2]
      exact h.rooted

/-- A thread that has been created can start its function: what the function
looks up first is on the receive thread's stack, or has not been freed. -/
theorem Sound.enter_enabled {n : NodePtr} {i : Nat} {p : Callbacks.State} (h : Sound t₀ x)
    (hp : Callbacks.step x.proto (.handlerRun n i) = some p) : step t₀ x (.enter n i 0) ≠ none := by
  obtain ⟨hn, rfl, hsub, -⟩ := h.one.phase_run hp
  obtain ⟨f, hf⟩ := h.frame n.call (.inl hsub)
  rw [← hn] at hf
  rw [step, hp, Option.bind_some, hf]
  cases f with
  | response m => simp
  | event k e =>
    simp only [rantChannelCallEventCallback, Channel.fetchChannel]
    cases hreg : x.chan.registry.lookup (Channel.int2fix e.ucANTChannel) with
    | none => simp
    | some o =>
      obtain ⟨ch, -, ho, -⟩ := h.rooted.keyed.entry _ o hreg
      simp [show x.chan.objects o = some ch from ho]

/-- A thread in its function can go on, whichever statement it has come to:
the lookup raises or succeeds, the end of the block finds the object's memory,
and the end of the function waits for nothing. -/
theorem Sound.running_enabled {n : NodePtr} {i : Nat} (h : Sound t₀ x)
    (hi : HandlerAt x.proto n i .running) :
    ∃ a : Action, a.isWork = true ∧ step t₀ x a ≠ none := by
  obtain ⟨hn, rfl, hrun⟩ := h.one.phase_running hi
  obtain ⟨b, hb⟩ := h.body n.call hrun
  rw [← hn] at hb
  rcases b with ⟨o, _ | _⟩ | _ | r
  · -- the object of the block has not been freed
    refine ⟨.finish n 0 .raised, rfl, ?_⟩
    obtain ⟨-, -, -, k, e, hf⟩ := h.block n 0 o false hb
    have hk : (abstraction t₀ x).1.flights k = some ⟨e, .running o false⟩ := by
      rw [abstraction_eq (job_running hrun (hn ▸ hf) (hn ▸ hb))]
      exact flightsOf_eq_some.mpr rfl
    rcases h.rooted.running k e o false hk with ⟨ch, ho⟩ | hfalse
    · simp [step, hi, hb, show x.chan.objects o = some ch from ho]
    · exact hfalse.elim
  · refine ⟨.lookupTx n 0, rfl, ?_⟩
    obtain ⟨-, -, -, k, e, hf⟩ := h.block n 0 o true hb
    simp only [step, if_pos hi, hf, hb]
    cases x.chan.registry.lookup (Channel.int2fix e.ucANTChannel) <;> simp
  · refine ⟨.finish n 0 .raised, rfl, ?_⟩
    simp [step, hi, hb]
  · refine ⟨.leave n 0, rfl, ?_⟩
    have hend : Callbacks.step x.proto (.handlerEnd n 0 r) = some _ :=
      Callbacks.step_eq_some.mpr ⟨hi, rfl⟩
    simp [step, hb, hend]

/-- Where no thread has any work left, the protocol has none: a thread at its
function could go on there, so what is left of the protocol are steps outside
the functions. -/
theorem Stuck.proto (hstuck : Stuck t₀ x) (h : Sound t₀ x) : Callbacks.Stuck x.proto := by
  intro a hw hen
  have hs : Callbacks.step x.proto a = some (Callbacks.next x.proto a) :=
    Callbacks.step_eq_some.mpr ⟨hen, rfl⟩
  cases hint : isInternal a with
  | true =>
    have hnone := hstuck (.proto a) hw
    rw [step, if_pos hint, hs] at hnone
    cases hnone
  | false =>
    cases a with
    | call t => cases hw
    | handlerRun n i => exact h.enter_enabled hs (hstuck (.enter n i 0) rfl)
    | handlerEnd n i r =>
      obtain ⟨b, hb, hsome⟩ := h.running_enabled hen
      exact hsome (hstuck b hb)
    | _ => cases hint

/-- The receive thread is back, and nothing is being handled. -/
theorem Stuck.served (hstuck : Stuck t₀ x) (h : Sound t₀ x) :
    x.proto.dispatcher = .asleep ∧ (x.proto.producers t₀).pc = .outside ∧
      Idle (abstraction t₀ x) := by
  have hp := hstuck.proto h
  have hinv := h.one.calm.toInv
  have hd : x.proto.dispatcher = .asleep :=
    (hp.dispatcher hinv).resolve_right h.one.calm.running
  have hout : (x.proto.producers t₀).pc = .outside := by
    by_contra hin
    obtain ⟨hexit, -⟩ := (hp.producer hinv t₀).mp hin
    rw [hd] at hexit
    cases hexit
  exact ⟨hd, hout, idle_abstraction (job_idle (if_pos hout))⟩

end Ends

/-- **Every report is served.** From every state of a run without an abort
request, whatever is scheduled (spurious wake-ups apart), and whatever the
program and the collector do: the threads take at most a hundred and forty
steps before the next report, and when they have none left, the receive thread
is back, the dispatcher waits, and no event or response is being handled. -/
theorem reports_served {t₀ : Nat} {as : List Action} {x : State}
    (h : Lts.Exec (step t₀) Quiet init as x) :
    ∀ bs x', Lts.Exec (step t₀) Undisturbed x bs x' → bs.countP Action.isWork ≤ 140 ∧
      (Stuck t₀ x' → x'.proto.dispatcher = .asleep ∧
        (x'.proto.producers t₀).pc = .outside ∧ Idle (abstraction t₀ x')) := by
  have hx : Sound t₀ x := h.invariant (fun _ _ _ hI hq hs => sound_step hI hq hs) (sound_init t₀)
  intro bs x' hrun
  have hkeep : ∀ y a y', Sound t₀ y → Undisturbed y a → step t₀ y a = some y' → Sound t₀ y' :=
    fun _ _ _ hI hu hs => sound_step hI (quiet_of_undisturbed hu) hs
  constructor
  · have hcount := hrun.countP_add_le (r := workLeft t₀) (p := Action.isWork) hkeep
      (fun _ _ _ hI hu hs => workLeft_step hI.toOk hu hs) hx
    have hrank : x.proto.rank {t₀} ≤ 25 * 1 + 21 := Callbacks.rank_le hx.one.calm.toInv {t₀}
    have hbody := bodyLeft_le (x.job t₀)
    have hleft : workLeft t₀ x = 3 * x.proto.rank {t₀} + bodyLeft (x.job t₀) := rfl
    omega
  · exact fun hstuck => hstuck.served (hrun.invariant hkeep hx)

/-- A channel is assigned and gets a block, and the library reports an
`EVENT_TX` for it. -/
def reportedEvent : List Action :=
  [.ruby (.assignChannel ⟨.int 3, .int 0, .nil, .nil, .nil⟩ true),
    .ruby (.onEvent 0 (some .handleEventCallback)), .event 3 eventTx ⟨[], Nat.zero_le _⟩]

/-- An `EVENT_TX` has been reported, and the receive thread has just called. -/
theorem reports_served_reportedEvent : ∃ x, Lts.Exec (step 0) Quiet init reportedEvent x ∧
    (x.proto.producers 0).pc = .entered ∧
    ∀ bs x', Lts.Exec (step 0) Undisturbed x bs x' → bs.countP Action.isWork ≤ 140 ∧
      (Stuck 0 x' → x'.proto.dispatcher = .asleep ∧
        (x'.proto.producers 0).pc = .outside ∧ Idle (abstraction 0 x')) := by
  have hrun : (Lts.runIf (step 0) (fun x a => decide (Quiet x a)) init reportedEvent).map
      (fun x => (x.proto.producers 0).pc) = some .entered := by
    decide +kernel
  obtain ⟨x, hexec, hpc⟩ := Lts.exec_of_checked hrun
  exact ⟨x, hexec, hpc, reports_served hexec⟩

end AntWireless.Extension
