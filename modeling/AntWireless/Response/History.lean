import AntWireless.Response.Handlers

/-!
# AntWireless — response data and the responses before

All responses are written to the start of one static buffer, which nothing clears, and the
callback is given the whole of it, whatever the length of the message.

* `responseData` — the string the callback gets for a message, after a history of others.
* `SameResponse` — after two histories the string is the same, and with it all that the
  default handlers make of it.
* `sameResponse_iff` — that holds exactly where the histories left the same bytes behind the
  end of the message.
-/

namespace AntWireless.Response

-- ---------------------------------------------------------------------------
-- The buffer
-- ---------------------------------------------------------------------------

/-- A response, with the bytes the library writes for it. -/
structure ResponseMessage where
  ucChannel : UInt8
  ucResponseMessageId : UInt8
  bytes : List UInt8
  fits : bytes.length ≤ mesgMaxSizeValue
  deriving DecidableEq, Repr

/-- `pucResponseBuffer`, a static array. -/
def initialResponseBuffer : List UInt8 := List.replicate mesgMaxSizeValue 0

/-- The buffer after the library has written a response to its start. -/
def writeResponse (pucResponseBuffer : List UInt8) (m : ResponseMessage) : List UInt8 :=
  Bytes.overlay m.bytes pucResponseBuffer

/-- `rb_enc_str_new( pucResponseBuffer, MESG_MAX_SIZE_VALUE, .. )`: the third
argument of the callback in `rant_call_response_callback`. -/
def rantCallResponseCallback (pucResponseBuffer : List UInt8) : List UInt8 :=
  pucResponseBuffer.take mesgMaxSizeValue

/-- The data string for the response `m` after the responses of `history`. -/
def responseData (history : List ResponseMessage) (m : ResponseMessage) : List UInt8 :=
  rantCallResponseCallback ((history ++ [m]).foldl writeResponse initialResponseBuffer)

/-- The byte a history leaves at a place: that of the last response that reached it. -/
def leftAt (history : List ResponseMessage) (i : Nat) : UInt8 :=
  (Bytes.lastAt (history.map ResponseMessage.bytes) i).getD 0

/-- The buffer after a history, byte by byte. -/
theorem getElem?_writeResponses (history : List ResponseMessage) {i : Nat}
    (hi : i < mesgMaxSizeValue) :
    (history.foldl writeResponse initialResponseBuffer)[i]? = some (leftAt history i) := by
  have hfold : history.foldl writeResponse initialResponseBuffer =
      (history.map ResponseMessage.bytes).foldl (fun b bs => Bytes.overlay bs b)
        initialResponseBuffer := by
    rw [List.foldl_map]
    rfl
  rw [hfold, Bytes.getElem?_foldl_overlay, initialResponseBuffer,
    List.getElem?_replicate_of_lt hi, leftAt]
  cases Bytes.lastAt (history.map ResponseMessage.bytes) i <;> rfl

/-- A response fits into the buffer, which keeps its length. -/
theorem length_writeResponses (history : List ResponseMessage) :
    (history.foldl writeResponse initialResponseBuffer).length = mesgMaxSizeValue := by
  induction history using List.reverseRecOn with
  | nil => exact List.length_replicate
  | append_singleton history m ih =>
    rw [List.foldl_append, List.foldl_cons, List.foldl_nil, writeResponse,
      Bytes.length_overlay (by rw [ih]; exact m.fits), ih]

theorem leftAt_concat (history : List ResponseMessage) (m : ResponseMessage) (i : Nat) :
    leftAt (history ++ [m]) i =
      if i < m.bytes.length then (m.bytes[i]?).getD 0 else leftAt history i := by
  rw [leftAt, List.map_append, List.map_singleton, Bytes.lastAt_concat]
  split <;> rfl

/-- The data: the bytes of the message, and then what the history left, since
the buffer is never cleared. -/
theorem getElem?_responseData (history : List ResponseMessage) (m : ResponseMessage) (i : Nat) :
    (responseData history m)[i]? =
      if i < m.bytes.length then m.bytes[i]?
      else if i < mesgMaxSizeValue then some (leftAt history i)
      else none := by
  have hfits := m.fits
  rw [responseData, rantCallResponseCallback,
    List.take_of_length_le (length_writeResponses _).le]
  by_cases hi : i < mesgMaxSizeValue
  · rw [getElem?_writeResponses _ hi, leftAt_concat, if_pos hi]
    split
    · rename_i hm
      rw [List.getElem?_eq_getElem hm]
      rfl
    · rfl
  · rw [if_neg (by omega), if_neg hi, List.getElem?_eq_none]
    rw [length_writeResponses]
    omega

-- ---------------------------------------------------------------------------
-- Two histories
-- ---------------------------------------------------------------------------

/-- The callback gets the same string for a message after either history; so
the default handlers read the same version, status and advanced burst fields
from it, and do the same. -/
structure SameResponse (h₁ h₂ : List ResponseMessage) (m : ResponseMessage) : Prop where
  data : responseData h₁ m = responseData h₂ m
  version : strip (responseData h₁ m) = strip (responseData h₂ m)
  status : (responseData h₁ m)[2]? = (responseData h₂ m)[2]?
  advancedBurst : ∀ type, onConfigAdvBurstId type (responseData h₁ m) =
    onConfigAdvBurstId type (responseData h₂ m)
  handled : ∀ depth s info,
    handleResponseCallback depth s info m.ucChannel (some m.ucResponseMessageId)
        (responseData h₁ m) =
      handleResponseCallback depth s info m.ucChannel (some m.ucResponseMessageId)
        (responseData h₂ m)

/-- All that the handlers read is in the data string. -/
theorem SameResponse.of_data {h₁ h₂ : List ResponseMessage} {m : ResponseMessage}
    (h : responseData h₁ m = responseData h₂ m) : SameResponse h₁ h₂ m :=
  ⟨h, by rw [h], by rw [h], fun _ => by rw [h], fun _ _ _ => by rw [h]⟩

/-- **Response data and history.** After two histories the same message is
handled alike if and only if they left the same byte at each place from the
end of the message on, up to the 41 bytes that the callback is given. -/
theorem sameResponse_iff (h₁ h₂ : List ResponseMessage) (m : ResponseMessage) :
    SameResponse h₁ h₂ m ↔
      ∀ i, m.bytes.length ≤ i → i < mesgMaxSizeValue → leftAt h₁ i = leftAt h₂ i := by
  constructor
  · intro hsame i hm hi
    have hbyte : (responseData h₁ m)[i]? = (responseData h₂ m)[i]? := by rw [hsame.data]
    have hend := Nat.not_lt.mpr hm
    rw [getElem?_responseData, getElem?_responseData, if_neg hend, if_neg hend, if_pos hi,
      if_pos hi, Option.some.injEq] at hbyte
    exact hbyte
  · intro hleft
    refine SameResponse.of_data (List.ext_getElem? fun i => ?_)
    rw [getElem?_responseData, getElem?_responseData]
    split
    · rfl
    · split
      · rw [hleft i (by omega) (by assumption)]
      · rfl

/-- The version message `"AJK1.20"`, with its final zero left out. -/
def versionMessage : ResponseMessage :=
  ⟨0, mesgVersionId, [0x41, 0x4A, 0x4B, 0x31, 0x2E, 0x32, 0x30], by decide⟩

/-- A longer response. -/
def longMessage : ResponseMessage :=
  ⟨0, mesgAdvBurstDataId, List.replicate 20 0x78, by decide⟩

/-- **Bytes of an older response.** The version is `"AJK1.20"` if it is the
first response, and has 13 letters more after one of 20 bytes. -/
theorem olderResponse_shows :
    strip (responseData [] versionMessage) = versionMessage.bytes ∧
    strip (responseData [longMessage] versionMessage) =
      versionMessage.bytes ++ List.replicate 13 0x78 ∧
    ¬ SameResponse [] [longMessage] versionMessage := by
  have hfirst : strip (responseData [] versionMessage) = versionMessage.bytes := by
    decide +kernel
  have hlater : strip (responseData [longMessage] versionMessage) =
      versionMessage.bytes ++ List.replicate 13 0x78 := by decide +kernel
  refine ⟨hfirst, hlater, fun hsame => ?_⟩
  have hversion := hsame.version
  rw [hfirst, hlater] at hversion
  exact absurd hversion (by decide)

end AntWireless.Response
