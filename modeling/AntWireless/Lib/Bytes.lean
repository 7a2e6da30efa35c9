import Mathlib.Data.List.Basic
import Mathlib.Data.UInt

/-!
# Byte buffers and words in bytes

Copies into buffers over any type with a zero, and words in little-endian order.

* `strncpy n src` — the `n` elements that `strncpy( dst, src, n )` writes: the text
  up to the first zero, then zeros. `strncpy_eq_self_iff` says when that is a copy.
* `overlay bs buf` — what `memcpy` to the start of a buffer leaves in it.
  `overlay_rightpad_iff` says when no element of an older copy shows.
* `getElem?_foldl_overlay` — what many copies leave: at each place the last that reached it.
* `packLe n x`, `unpackLe n bs` — a word of `n` bytes. `unpackLe_packLe` is the round trip.
-/

namespace Bytes

variable {α : Type*} [Zero α]

section StrNCpy

variable [DecidableEq α]

/-- The elements `strncpy( dst, src, n )` writes; past its end `src` reads as zero. -/
def strncpy : Nat → List α → List α
  | 0, _ => []
  | n + 1, [] => List.replicate (n + 1) 0
  | n + 1, b :: src => if b = 0 then List.replicate (n + 1) 0 else b :: strncpy n src

@[simp] theorem length_strncpy (n : Nat) (src : List α) : (strncpy n src).length = n := by
  induction n generalizing src with
  | zero => rfl
  | succ n ih =>
    cases src with
    | nil => simp [strncpy]
    | cons b src =>
      rw [strncpy]
      split <;> simp [ih]

/-- Nothing but zeros after a zero. -/
def ZeroTailed (l : List α) : Prop := l.Pairwise fun a b => a = 0 → b = 0

instance (l : List α) : Decidable (ZeroTailed l) := inferInstanceAs (Decidable (l.Pairwise _))

omit [DecidableEq α] in
theorem zeroTailed_zero_cons {l : List α} : ZeroTailed (0 :: l) ↔ ∀ b ∈ l, b = 0 := by
  rw [ZeroTailed, List.pairwise_cons]
  constructor
  · intro h b hb
    exact h.1 b hb rfl
  · intro h
    exact ⟨fun b hb _ => h b hb, List.pairwise_of_forall_mem_list fun _ _ b hb _ => h b hb⟩

/-- **`strncpy` is a copy** of exactly those data whose only zeros are at the end. -/
theorem strncpy_eq_self_iff (l : List α) : strncpy l.length l = l ↔ ZeroTailed l := by
  induction l with
  | nil => simp [strncpy, ZeroTailed]
  | cons b l ih =>
    rw [List.length_cons, strncpy]
    split
    · rename_i hb
      subst hb
      rw [zeroTailed_zero_cons, List.replicate_succ, List.cons.injEq,
        eq_comm (a := List.replicate l.length 0), List.eq_replicate_iff]
      simp
    · rename_i hb
      rw [List.cons.injEq, ih, ZeroTailed, ZeroTailed, List.pairwise_cons]
      simp [hb]

end StrNCpy

/-- What `memcpy( buf, bs, length bs )` leaves in `buf`. -/
def overlay (bs buf : List α) : List α := bs ++ buf.drop bs.length

omit [Zero α] in
/-- Copying does not change the length of what is copied over. -/
theorem length_overlay {bs buf : List α} (h : bs.length ≤ buf.length) :
    (overlay bs buf).length = buf.length := by
  rw [overlay, List.length_append, List.length_drop]
  omega

omit [Zero α] in
theorem take_overlay (bs buf : List α) : (overlay bs buf).take bs.length = bs := by
  rw [overlay, List.take_left']
  rfl

/-- A copy over zeros is filled up with zeros. -/
theorem overlay_replicate (bs : List α) (n : Nat) :
    overlay bs (List.replicate n 0) = bs.rightpad n 0 := by
  rw [overlay, List.drop_replicate, List.rightpad]

/-- A copy over an older one shows nothing of it exactly when the older one
has only zeros where the new one does not reach. -/
theorem overlay_rightpad_iff {bs old : List α} {n : Nat} (h : old.length ≤ n) :
    overlay bs (old.rightpad n 0) = bs.rightpad n 0 ↔ ∀ b ∈ old.drop bs.length, b = 0 := by
  rw [overlay, List.rightpad, List.rightpad, List.append_cancel_left_eq, List.drop_append,
    List.drop_replicate]
  constructor
  · intro heq b hb
    have hmem : b ∈ List.replicate (n - bs.length) (0 : α) := by
      rw [← heq]
      exact List.mem_append_left _ hb
    exact List.eq_of_mem_replicate hmem
  · intro hzero
    rw [List.eq_replicate_iff]
    refine ⟨?_, fun b hb => ?_⟩
    · simp only [List.length_append, List.length_drop, List.length_replicate]
      omega
    · rcases List.mem_append.mp hb with hold | hpad
      · exact hzero b hold
      · exact List.eq_of_mem_replicate hpad

section Copies

omit [Zero α]

/-- Position by position: the copy as far as it reaches. -/
theorem getElem?_overlay (bs buf : List α) (i : Nat) :
    (overlay bs buf)[i]? = if i < bs.length then bs[i]? else buf[i]? := by
  rw [overlay, List.getElem?_append]
  split
  · rfl
  · rw [List.getElem?_drop, Nat.add_sub_cancel' (by omega)]

/-- The element at `i` of the last list that has one. -/
def lastAt (ws : List (List α)) (i : Nat) : Option α := (ws.filterMap fun bs => bs[i]?).getLast?

theorem lastAt_concat (ws : List (List α)) (bs : List α) (i : Nat) :
    lastAt (ws ++ [bs]) i = if i < bs.length then bs[i]? else lastAt ws i := by
  rw [lastAt, List.filterMap_append]
  split
  · rename_i hi
    rw [List.getElem?_eq_getElem hi]
    simp [hi]
  · rename_i hi
    have hnone : bs[i]? = none := List.getElem?_eq_none (Nat.le_of_not_lt hi)
    simp [hnone, lastAt]

/-- **Copies one over another** leave at each place what the last one had that
reached it. -/
theorem getElem?_foldl_overlay (ws : List (List α)) (buf : List α) (i : Nat) :
    (ws.foldl (fun b bs => overlay bs b) buf)[i]? = (lastAt ws i).or buf[i]? := by
  induction ws using List.reverseRecOn with
  | nil => rfl
  | append_singleton ws bs ih =>
    rw [List.foldl_append, List.foldl_cons, List.foldl_nil, getElem?_overlay, ih, lastAt_concat]
    split
    · rename_i hi
      rw [List.getElem?_eq_getElem hi]
      rfl
    · rfl

end Copies

section LittleEndian

/-- The low `n` bytes of `x`, the lowest first. -/
def packLe : Nat → Nat → List UInt8
  | 0, _ => []
  | n + 1, x => UInt8.ofNat x :: packLe n (x / 256)

@[simp] theorem length_packLe (n x : Nat) : (packLe n x).length = n := by
  induction n generalizing x with
  | zero => rfl
  | succ n ih => rw [packLe, List.length_cons, ih]

/-- The number whose bytes these are, the lowest first. -/
def ofLe : List UInt8 → Nat
  | [] => 0
  | b :: bs => b.toNat + 256 * ofLe bs

/-- Packing and reading keeps what fits into `n` bytes. -/
theorem ofLe_packLe (n x : Nat) : ofLe (packLe n x) = x % 256 ^ n := by
  induction n generalizing x with
  | zero => rw [packLe, ofLe, Nat.pow_zero, Nat.mod_one]
  | succ n ih =>
    have hlow : (UInt8.ofNat x).toNat = x % 256 := UInt8.toNat_ofNat'
    rw [packLe, ofLe, ih, hlow, Nat.pow_succ', Nat.mod_mul]

/-- A word off the front; where too few bytes are left none is read. -/
def unpackLe (n : Nat) (bs : List UInt8) : Option Nat × List UInt8 :=
  if n ≤ bs.length then (some (ofLe (bs.take n)), bs.drop n) else (none, bs)

/-- **Round trip.** A word is read back from the front of what follows it,
modulo its size. -/
theorem unpackLe_packLe (n x : Nat) (rest : List UInt8) :
    unpackLe n (packLe n x ++ rest) = (some (x % 256 ^ n), rest) := by
  have hlen : n ≤ (packLe n x ++ rest).length := by
    rw [List.length_append, length_packLe]
    omega
  rw [unpackLe, if_pos hlen, List.take_left' (length_packLe n x),
    List.drop_left' (length_packLe n x), ofLe_packLe]

end LittleEndian

end Bytes
