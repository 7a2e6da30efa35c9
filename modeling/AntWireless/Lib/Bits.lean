import Mathlib.Data.Int.Bitwise
import Mathlib.Data.List.Basic

/-!
# Integers bit by bit, and updates of single positions

* `Bits.int_eq_of_testBit` — integers of either sign are equal if all their bits are.
* `Bits.testBit_shiftLeft`, `Bits.testBit_shiftRight` — the bits of a shifted integer.
* `Bits.masks_cover` — a number is put together from its bits under two masks.
* `Bits.int_lt_iff` — the order of integers of either sign, by their signs and the highest bit
  that differs.
* `Pointwise` — an update acts on each position of a state apart. What a sequence of such
  updates leaves at a position is what those that act on it make of its old content
  (`Pointwise.read_foldl`); so their order matters only position by position.
-/

-- ---------------------------------------------------------------------------
-- Integers
-- ---------------------------------------------------------------------------

namespace Bits

/-- From some position on, a natural number has no bits and a negative one has all. -/
theorem natCast_ne_negSucc_bits (m n : Nat) :
    ∃ k, Int.testBit (m : Int) k ≠ Int.testBit (Int.negSucc n) k := by
  refine ⟨m + n, ?_⟩
  have hm : m.testBit (m + n) = false :=
    Nat.testBit_lt_two_pow (Nat.lt_of_le_of_lt (Nat.le_add_right m n) Nat.lt_two_pow_self)
  have hn : n.testBit (m + n) = false :=
    Nat.testBit_lt_two_pow (Nat.lt_of_le_of_lt (Nat.le_add_left n m) Nat.lt_two_pow_self)
  show m.testBit (m + n) ≠ !n.testBit (m + n)
  rw [hm, hn]
  decide

/-- Two integers with the same bits are equal; their signs show in the bits
far up. -/
theorem int_eq_of_testBit {i j : Int} (h : ∀ k, i.testBit k = j.testBit k) : i = j := by
  cases i with
  | ofNat m =>
    cases j with
    | ofNat n => exact congrArg Int.ofNat (Nat.eq_of_testBit_eq h)
    | negSucc n =>
      obtain ⟨k, hk⟩ := natCast_ne_negSucc_bits m n
      exact absurd (h k) hk
  | negSucc m =>
    cases j with
    | ofNat n =>
      obtain ⟨k, hk⟩ := natCast_ne_negSucc_bits n m
      exact absurd (h k).symm hk
    | negSucc n =>
      have hmn : m = n := Nat.eq_of_testBit_eq fun k => Bool.not_inj (h k)
      rw [hmn]

theorem testBit_one_shiftLeft (n k : Nat) :
    ((1 : Int) <<< (n : Int)).testBit k = decide (n = k) := by
  rw [Int.one_shiftLeft]
  exact Nat.testBit_two_pow

/-- A left shift that fills up with `fill`. -/
theorem testBit_shiftLeft' (fill : Bool) (m k b : Nat) :
    (Nat.shiftLeft' fill m k).testBit b = if b < k then fill else m.testBit (b - k) := by
  induction k generalizing b with
  | zero => simp [Nat.shiftLeft']
  | succ k ih =>
    rw [Nat.shiftLeft']
    cases b with
    | zero => simp
    | succ b =>
      rw [Nat.testBit_bit_succ, ih, Nat.succ_sub_succ]
      simp

/-- A left shift, of a negative integer as well: zeros come in from below. -/
theorem testBit_shiftLeft (i : Int) (k b : Nat) :
    (i <<< (k : Int)).testBit b = (decide (k ≤ b) && i.testBit (b - k)) := by
  cases i with
  | ofNat m =>
    have hbit := testBit_shiftLeft' false m k b
    show (Nat.shiftLeft' false m k).testBit b = (_ && m.testBit (b - k))
    rw [hbit]
    by_cases hb : b < k
    · simp [hb]
    · simp [hb, Nat.le_of_not_lt hb]
  | negSucc m =>
    have hbit := testBit_shiftLeft' true m k b
    show (!(Nat.shiftLeft' true m k).testBit b) = (_ && !m.testBit (b - k))
    rw [hbit]
    by_cases hb : b < k
    · simp [hb]
    · simp [hb, Nat.le_of_not_lt hb]

/-- A right shift, which keeps the sign. -/
theorem testBit_shiftRight (i : Int) (k b : Nat) :
    (i >>> (k : Int)).testBit b = i.testBit (b + k) := by
  cases i with
  | ofNat m =>
    rw [Int.ofNat_eq_natCast, Int.shiftRight_natCast]
    show (m >>> k).testBit b = m.testBit (b + k)
    rw [Nat.testBit_shiftRight, Nat.add_comm]
  | negSucc m =>
    rw [Int.shiftRight_negSucc]
    show (!(m >>> k).testBit b) = !m.testBit (b + k)
    rw [Nat.testBit_shiftRight, Nat.add_comm]

/-- The highest bit that differs is on in `j`. -/
def Below (i j : Int) : Prop :=
  ∃ k, i.testBit k = false ∧ j.testBit k = true ∧ ∀ l, k < l → i.testBit l = j.testBit l

/-- Natural numbers are ordered by their highest bit that differs. -/
theorem nat_lt_iff {m n : Nat} : m < n ↔ Below m n := by
  constructor
  · intro hlt
    have hne : m ^^^ n ≠ 0 := fun h => absurd (Nat.xor_eq_zero_iff.mp h) (Nat.ne_of_lt hlt)
    obtain ⟨k, hk, habove⟩ := Nat.exists_most_significant_bit hne
    have hagree : ∀ l, k < l → m.testBit l = n.testBit l := by
      intro l hl
      have hl' := habove l hl
      rw [Nat.testBit_xor] at hl'
      simpa using hl'
    rw [Nat.testBit_xor] at hk
    cases hm : m.testBit k with
    | false =>
      have hn : n.testBit k = true := by simpa [hm] using hk
      exact ⟨k, hm, hn, hagree⟩
    | true =>
      -- then it is on in `m`, and `m` is the greater one
      have hn : n.testBit k = false := by simpa [hm] using hk
      exact absurd (Nat.lt_of_testBit k hn hm fun l hl => (hagree l hl).symm) (Nat.not_lt_of_lt hlt)
  · rintro ⟨k, hm, hn, hagree⟩
    exact Nat.lt_of_testBit k hm hn hagree

/-- Complements are in the other order: every bit is turned over. -/
theorem below_negSucc {m n : Nat} : Below (Int.negSucc m) (Int.negSucc n) ↔ Below n m := by
  have hnot : ∀ p k : Nat, (Int.negSucc p).testBit k = !p.testBit k := fun _ _ => rfl
  constructor
  · rintro ⟨k, hm, hn, hagree⟩
    rw [hnot] at hm hn
    have hm' : m.testBit k = true := by simpa using hm
    have hn' : n.testBit k = false := by simpa using hn
    refine ⟨k, hn', hm', fun l hl => ?_⟩
    have hl' := hagree l hl
    rw [hnot, hnot] at hl'
    exact (Bool.not_inj hl').symm
  · rintro ⟨k, hn, hm, hagree⟩
    refine ⟨k, ?_, ?_, fun l hl => ?_⟩
    · rw [hnot, show m.testBit k = true from hm]
      rfl
    · rw [hnot, show n.testBit k = false from hn]
      rfl
    · rw [hnot, hnot, show n.testBit l = m.testBit l from hagree l hl]

/-- Far up, the bits of a number are those of its sign. -/
theorem testBit_sign (i : Int) : ∃ k, ∀ l, k ≤ l → i.testBit l = decide (i < 0) := by
  have hbound : ∀ n l : Nat, n ≤ l → n.testBit l = false := fun n l hl =>
    Nat.testBit_lt_two_pow (Nat.lt_of_le_of_lt hl Nat.lt_two_pow_self)
  cases i with
  | ofNat n =>
    refine ⟨n, fun l hl => ?_⟩
    rw [decide_eq_false (by simp)]
    exact hbound n l hl
  | negSucc n =>
    refine ⟨n, fun l hl => ?_⟩
    rw [decide_eq_true (Int.negSucc_lt_zero n)]
    show (!n.testBit l) = true
    rw [hbound n l hl]
    rfl

/-- Where a highest bit differs there are equal ones above it, so the signs
are equal. -/
theorem Below.sign {i j : Int} (h : Below i j) : i < 0 ↔ j < 0 := by
  obtain ⟨k, -, -, hagree⟩ := h
  obtain ⟨a, ha⟩ := testBit_sign i
  obtain ⟨b, hb⟩ := testBit_sign j
  have hi := ha (k + 1 + a + b) (by omega)
  have hj := hb (k + 1 + a + b) (by omega)
  rw [hagree _ (by omega), hj] at hi
  simpa using hi.symm

/-- **Order of integers.** By the sign, and with the same sign by the highest
bit that differs. -/
theorem int_lt_iff {i j : Int} : i < j ↔ (i < 0 ∧ 0 ≤ j) ∨ Below i j := by
  cases i with
  | ofNat m =>
    cases j with
    | ofNat n =>
      have hiff : (m : Int) < n ↔ Below m n := Int.ofNat_lt.trans nat_lt_iff
      have hm : ¬ ((m : Int) < 0 ∧ (0 : Int) ≤ n) := by omega
      exact hiff.trans (or_iff_right hm).symm
    | negSucc n =>
      have hn := Int.negSucc_lt_zero n
      have hm : (0 : Int) ≤ Int.ofNat m := Int.natCast_nonneg m
      refine iff_of_false (by omega) ?_
      rintro (⟨hneg, -⟩ | hbelow)
      · omega
      · have hsign := hbelow.sign
        omega
  | negSucc m =>
    cases j with
    | ofNat n =>
      have hm := Int.negSucc_lt_zero m
      have hn : (0 : Int) ≤ Int.ofNat n := Int.natCast_nonneg n
      exact iff_of_true (by omega) (.inl ⟨hm, hn⟩)
    | negSucc n =>
      rw [below_negSucc, ← nat_lt_iff]
      constructor
      · intro h
        right
        omega
      · rintro (⟨-, h⟩ | h)
        · omega
        · omega

/-- Masks with all the bits of a number between them leave nothing of it out. -/
theorem masks_cover {n m m' k : Nat} (hn : n < 2 ^ k) (hcover : m ||| m' = 2 ^ k - 1) :
    (n &&& m) ||| (n &&& m') = n := by
  rw [← Nat.and_or_distrib_left, hcover]
  exact Nat.and_two_pow_sub_one_of_lt_two_pow hn

end Bits

-- ---------------------------------------------------------------------------
-- Updates of single positions
-- ---------------------------------------------------------------------------

section Pointwise

variable {σ α ι β : Type*} {read : σ → ι → β} {step : σ → α → σ} {act : ι → α → Option (β → β)}

/-- The update `a` makes of the content of position `i` what `act i a` says,
if that is something, and leaves it alone otherwise. -/
def Pointwise (read : σ → ι → β) (step : σ → α → σ) (act : ι → α → Option (β → β)) : Prop :=
  ∀ s a i, read (step s a) i = (act i a).elim (read s i) fun f => f (read s i)

namespace Pointwise

/-- **Position by position.** After any sequence of updates a position holds
what those that touch it have made of it, in their order. -/
theorem read_foldl (h : Pointwise read step act) (s : σ) (as : List α) (i : ι) :
    read (as.foldl step s) i =
      (as.filterMap (act i)).foldl (fun x f => f x) (read s i) := by
  induction as generalizing s with
  | nil => rfl
  | cons a as ih =>
    rw [List.foldl_cons, ih, h s a i, List.filterMap_cons]
    cases act i a <;> rfl

/-- Sequences that do the same to each position end in the same state, if a
state has nothing but its positions. -/
theorem foldl_congr (h : Pointwise read step act)
    (hread : ∀ s t, (∀ i, read s i = read t i) → s = t)
    {as bs : List α} (hsame : ∀ i, as.filterMap (act i) = bs.filterMap (act i)) (s : σ) :
    as.foldl step s = bs.foldl step s := by
  refine hread _ _ fun i => ?_
  rw [h.read_foldl, h.read_foldl, hsame i]

/-- Updates of different positions commute. -/
theorem comm (h : Pointwise read step act)
    (hread : ∀ s t, (∀ i, read s i = read t i) → s = t)
    {a b : α} (hdisjoint : ∀ i, act i a = none ∨ act i b = none) (s : σ) :
    step (step s a) b = step (step s b) a := by
  show [a, b].foldl step s = [b, a].foldl step s
  refine h.foldl_congr hread (fun i => ?_) s
  rcases hdisjoint i with hnone | hnone
  · simp [List.filterMap_cons, hnone]
  · simp [List.filterMap_cons, hnone]

end Pointwise

end Pointwise
