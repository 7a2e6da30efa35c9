import AntWireless.Response.Handlers

/-!
# AntWireless — when the dispatch of a response ends

`handle_response_callback` and `on_response_event` call each other with the same data; the
next message ID is its byte 1. No argument gets smaller, so it is the table alone that ends
the recursion.

* `Dispatched` — a dispatch that ends, by the calls it takes.
* `handle_of_dispatched` — what `handleResponseCallback` does then, with room for the calls.
* `terminates_iff` — which dispatches end.
-/

namespace AntWireless.Response

open Channel (State)

-- ---------------------------------------------------------------------------
-- Dispatches that end
-- ---------------------------------------------------------------------------

/-- Where a dispatch ends: in a method other than `on_response_event`, in the
default log call, or with the error for a message ID that the table does not
have. -/
inductive DispatchEnd
  | handler (h : ResponseHandler)
  | log (id : UInt8) (h : ResponseHandler)
  | unhandled (id : Option UInt8)
  deriving DecidableEq, Repr

/-- A dispatch of a message ID that ends after `n` calls of
`handle_response_callback`. -/
inductive Dispatched (data : List UInt8) : Option UInt8 → Nat → DispatchEnd → Prop
  | noId : Dispatched data none 1 (.unhandled none)
  | unhandled {id : UInt8} (hl : handlerMethods.lookup id = none) :
      Dispatched data (some id) 1 (.unhandled (some id))
  | log {id : UInt8} {h : ResponseHandler} (hl : handlerMethods.lookup id = some h)
      (hr : respondTo h = false) : Dispatched data (some id) 1 (.log id h)
  | handler {id : UInt8} {h : ResponseHandler} (hl : handlerMethods.lookup id = some h)
      (hr : respondTo h = true) (hne : h ≠ .onResponseEvent) :
      Dispatched data (some id) 1 (.handler h)
  | again {id : UInt8} {n : Nat} {e : DispatchEnd}
      (hl : handlerMethods.lookup id = some .onResponseEvent) (hd : Dispatched data data[1]? n e) :
      Dispatched data (some id) (n + 1) e

/-- What a dispatch that ends there does. A method other than
`on_response_event` makes nothing of the last argument of `sendHandler`. -/
def DispatchEnd.outcome (s : State) (info : DeviceInfo) (channelNum : UInt8) (data : List UInt8) :
    DispatchEnd → Handled
  | .handler h => sendHandler s info channelNum data ⟨info, [], .returned⟩ h
  | .log id h => ⟨info, [logResponseCallback channelNum id h data], .returned⟩
  | .unhandled none => ⟨info, [], .raised (.runtimeError "Unhandled response message ID nil")⟩
  | .unhandled (some id) =>
    ⟨info, [], .raised (.runtimeError ("Unhandled response message ID " ++ toString id.toNat))⟩

/-- The dispatch takes finitely many calls, and with room for them on the
stack that is what it does. -/
def Terminates (channelNum : UInt8) (id : Option UInt8) (data : List UInt8) : Prop :=
  ∃ n e, Dispatched data id n e ∧ ∀ depth s info, n ≤ depth →
    handleResponseCallback depth s info channelNum id data = e.outcome s info channelNum data

-- ---------------------------------------------------------------------------
-- What the table sends on
-- ---------------------------------------------------------------------------

/-- One message ID is that of `on_response_event`, the only method that
dispatches once more. -/
theorem lookup_onResponseEvent_iff (id : UInt8) :
    handlerMethods.lookup id = some .onResponseEvent ↔ id = mesgResponseEventId := by
  constructor
  · intro hl
    have hmem := lookup_code hl
    simpa [handlerMethods] using hmem
  · rintro rfl
    rfl

/-- The other methods make nothing of what a further dispatch would do. -/
theorem sendHandler_congr {h : ResponseHandler} (hne : h ≠ .onResponseEvent) (s : State)
    (info : DeviceInfo) (channelNum : UInt8) (data : List UInt8) (r r' : Handled) :
    sendHandler s info channelNum data r h = sendHandler s info channelNum data r' h := by
  cases h with
  | onResponseEvent => exact absurd rfl hne
  | _ => rfl

/-- With room for its calls, a dispatch that ends does what its end says. The
induction is on the calls; a response event takes one, and the rest are those
of the message it answers. -/
theorem handle_of_dispatched {data : List UInt8} {id : Option UInt8} {n : Nat} {e : DispatchEnd}
    (hd : Dispatched data id n e) {depth : Nat} (hdepth : n ≤ depth) (s : State)
    (info : DeviceInfo) (channelNum : UInt8) :
    handleResponseCallback depth s info channelNum id data = e.outcome s info channelNum data := by
  induction hd generalizing depth with
  | noId =>
    obtain ⟨depth, rfl⟩ := Nat.exists_eq_succ_of_ne_zero (Nat.ne_of_gt hdepth)
    rfl
  | unhandled hl =>
    obtain ⟨depth, rfl⟩ := Nat.exists_eq_succ_of_ne_zero (Nat.ne_of_gt hdepth)
    rw [handleResponseCallback, hl]
    rfl
  | log hl hr =>
    obtain ⟨depth, rfl⟩ := Nat.exists_eq_succ_of_ne_zero (Nat.ne_of_gt hdepth)
    rw [handleResponseCallback, hl]
    simp only [hr]
    rfl
  | handler hl hr hne =>
    obtain ⟨depth, rfl⟩ := Nat.exists_eq_succ_of_ne_zero (Nat.ne_of_gt hdepth)
    rw [handleResponseCallback, hl]
    simp only [hr, if_true]
    exact sendHandler_congr hne _ _ _ _ _ _
  | again hl hd ih =>
    obtain ⟨depth, rfl⟩ : ∃ k, depth = k + 1 := ⟨depth - 1, by omega⟩
    have hrest := ih (show _ ≤ depth by omega)
    rw [handleResponseCallback, hl]
    exact hrest

/-- A message ID that is not the one of a response event is dispatched with
one call: to its method, to the log, or to the error for an unknown ID. -/
theorem dispatched_once (data : List UInt8) {id : Option UInt8}
    (hid : id ≠ some mesgResponseEventId) : ∃ e, Dispatched data id 1 e := by
  cases id with
  | none => exact ⟨_, .noId⟩
  | some id =>
    cases hl : handlerMethods.lookup id with
    | none => exact ⟨_, .unhandled hl⟩
    | some h =>
      by_cases hr : respondTo h = true
      · refine ⟨_, .handler hl hr ?_⟩
        rintro rfl
        have hevent := (lookup_onResponseEvent_iff id).mp hl
        exact hid (by rw [hevent])
      · exact ⟨_, .log hl (Bool.not_eq_true _ ▸ hr)⟩

/-- A response event that says it answers a response event is never
dispatched: it would take one call more than the same dispatch. -/
theorem not_dispatched {data : List UInt8} (hbyte : data[1]? = some mesgResponseEventId) {n : Nat}
    {e : DispatchEnd} : ¬ Dispatched data (some mesgResponseEventId) n e := by
  have hgen : ∀ id, id = some mesgResponseEventId → ¬ Dispatched data id n e := by
    intro id hid hd
    induction hd with
    | noId => cases hid
    | unhandled hl =>
      cases hid
      cases hl
    | log hl hr =>
      cases hid
      cases hl
      cases hr
    | handler hl hr hne =>
      cases hid
      cases hl
      exact hne rfl
    | again hl hd ih => exact ih hbyte
  exact hgen _ rfl

/-- It calls itself until the stack is full. -/
theorem handle_exhausts {data : List UInt8} (hbyte : data[1]? = some mesgResponseEventId)
    (depth : Nat) (s : State) (info : DeviceInfo) (channelNum : UInt8) :
    handleResponseCallback depth s info channelNum (some mesgResponseEventId) data =
      ⟨info, [], .systemStackError⟩ := by
  induction depth with
  | zero => rfl
  | succ depth ih => rw [handle_responseEvent, hbyte, ih]

/-- **Termination.** For every channel number, message ID and data: the
dispatch ends in a method, in the default log call or with the error for an
unknown ID, if and only if it is not a response event whose byte 1 is the ID
of a response event. -/
theorem terminates_iff (channelNum id : UInt8) (data : List UInt8) :
    Terminates channelNum (some id) data ↔
      ¬ (id = mesgResponseEventId ∧ data[1]? = some mesgResponseEventId) := by
  constructor
  · rintro ⟨n, e, hd, -⟩ ⟨rfl, hbyte⟩
    exact not_dispatched hbyte hd
  · intro hnot
    have hended : ∃ n e, Dispatched data (some id) n e := by
      by_cases hid : id = mesgResponseEventId
      · have hbyte : data[1]? ≠ some mesgResponseEventId := fun hbyte => hnot ⟨hid, hbyte⟩
        obtain ⟨e, hd⟩ := dispatched_once data hbyte
        exact ⟨_, e, .again ((lookup_onResponseEvent_iff id).mpr hid) hd⟩
      · have hsome : some id ≠ some mesgResponseEventId := fun h => hid (Option.some.inj h)
        obtain ⟨e, hd⟩ := dispatched_once data hsome
        exact ⟨1, e, hd⟩
    obtain ⟨n, e, hd⟩ := hended
    exact ⟨n, e, hd, fun depth s info hdepth => handle_of_dispatched hd hdepth s info channelNum⟩

/-- The payload of a response event that names its own message ID. -/
def selfAnswer : List UInt8 := [0, mesgResponseEventId] ++ List.replicate 39 0

/-- **A dispatch without end.** A response event of 41 bytes with its own ID
in byte 1: the stack is full before a method is called, however deep it is. -/
theorem selfAnswer_exhausts :
    selfAnswer.length = mesgMaxSizeValue ∧
    (∀ depth, (handleResponseCallback depth Channel.init noInfo 0 (some mesgResponseEventId)
      selfAnswer).ending = .systemStackError) ∧
    ¬ Terminates 0 (some mesgResponseEventId) selfAnswer := by
  have hbyte : selfAnswer[1]? = some mesgResponseEventId := rfl
  refine ⟨rfl, fun depth => by rw [handle_exhausts hbyte], ?_⟩
  rintro ⟨n, e, hd, -⟩
  exact not_dispatched hbyte hd

end AntWireless.Response
