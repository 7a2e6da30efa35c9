import Mathlib.Algebra.BigOperators.Group.Finset.Basic
import Mathlib.Data.List.Basic
import Mathlib.Data.Nat.ModEq

/-!
# Numerals in a base

Facts about `Nat.toDigits`, the characters a number is printed with.

* `Digits.foldlM_toDigits` — a reader that takes one digit after the other gets the number
  back, leading zeros or not (`Digits.foldlM_leftpad`).
* `Digits.getElem?_reverse_toDigits` — the digits from the last one on are the number's
  places.
* `Digits.sum_places` — and the places add up to the number.
-/

namespace Digits

variable {b : Nat}

-- ---------------------------------------------------------------------------
-- Places
-- ---------------------------------------------------------------------------

/-- The digits from the last one on are the places of the number. The
induction takes the last digit off. -/
theorem getElem?_reverse_toDigits (hb : 1 < b) (n i : Nat) :
    (Nat.toDigits b n).reverse[i]? =
      if i < (Nat.toDigits b n).length then some (Nat.digitChar (n / b ^ i % b)) else none := by
  induction n using Nat.strong_induction_on generalizing i with
  | _ n ih =>
    by_cases hlt : n < b
    · rw [Nat.toDigits_of_lt_base hlt]
      cases i with
      | zero => simp [Nat.mod_eq_of_lt hlt]
      | succ i => simp
    · have hle : b ≤ n := Nat.le_of_not_lt hlt
      have hsmaller : n / b < n := Nat.div_lt_self (by omega) hb
      rw [Nat.toDigits_of_base_le hb hle]
      cases i with
      | zero => simp
      | succ i =>
        have hplace : n / b ^ (i + 1) = n / b / b ^ i := by
          rw [Nat.div_div_eq_div_mul, Nat.pow_succ']
        rw [List.reverse_append, List.reverse_singleton, List.singleton_append,
          List.getElem?_cons_succ, ih _ hsmaller, hplace]
        simp

/-- The places up to `k` are the number modulo `b ^ k`. -/
theorem sum_places_mod (b n k : Nat) :
    ∑ i ∈ Finset.range k, n / b ^ i % b * b ^ i = n % b ^ k := by
  induction k with
  | zero => simp [Nat.mod_one]
  | succ k ih =>
    rw [Finset.sum_range_succ, ih, Nat.mod_pow_succ, Nat.mul_comm (b ^ k)]

theorem lt_pow_length (hb : 1 < b) (n : Nat) : n < b ^ (Nat.toDigits b n).length :=
  (Nat.length_toDigits_le_iff hb Nat.length_toDigits_pos).mp (Nat.le_refl _)

/-- A number has no digits in front that it does not need. -/
theorem pow_le_of_lt_length (hb : 1 < b) {n k : Nat} (hk : 0 < k)
    (hlen : k < (Nat.toDigits b n).length) : b ^ k ≤ n := by
  by_contra hlt
  have hle := (Nat.length_toDigits_le_iff hb hk).mpr (Nat.lt_of_not_le hlt)
  omega

/-- A number is the sum of its places. -/
theorem sum_places (hb : 1 < b) (n : Nat) :
    ∑ i ∈ Finset.range (Nat.toDigits b n).length, n / b ^ i % b * b ^ i = n := by
  rw [sum_places_mod, Nat.mod_eq_of_lt (lt_pow_length hb n)]

-- ---------------------------------------------------------------------------
-- Reading
-- ---------------------------------------------------------------------------

theorem exists_of_mem_toDigits (hb : 1 < b) {n : Nat} {c : Char} (hc : c ∈ Nat.toDigits b n) :
    ∃ d, d < b ∧ c = Nat.digitChar d := by
  obtain ⟨i, hi⟩ := List.mem_iff_getElem?.mp (List.mem_reverse.mpr hc)
  rw [getElem?_reverse_toDigits hb] at hi
  split at hi
  · exact ⟨_, Nat.mod_lt _ (by omega), (Option.some.inj hi).symm⟩
  · cases hi

theorem exists_of_mem_leftpad (hb : 1 < b) {width n : Nat} {c : Char}
    (hc : c ∈ (Nat.toDigits b n).leftpad width '0') : ∃ d, d < b ∧ c = Nat.digitChar d := by
  rcases List.mem_append.mp hc with hzero | hc
  · exact ⟨0, by omega, List.eq_of_mem_replicate hzero⟩
  · exact exists_of_mem_toDigits hb hc

variable {f : Nat → Char → Option Nat}

/-- A reader that appends each digit to what it has read. -/
def Appends (b : Nat) (f : Nat → Char → Option Nat) : Prop :=
  ∀ acc d, d < b → f acc (Nat.digitChar d) = some (acc * b + d)

/-- **Reading.** A reader that appends each digit to what it has read gets the
number back. -/
theorem foldlM_toDigits (hb : 1 < b) (hf : Appends b f) (n : Nat) :
    (Nat.toDigits b n).foldlM f 0 = some n := by
  induction n using Nat.strong_induction_on with
  | _ n ih =>
    by_cases hlt : n < b
    · rw [Nat.toDigits_of_lt_base hlt]
      simp [hf 0 n hlt]
    · have hle : b ≤ n := Nat.le_of_not_lt hlt
      have hsmaller : n / b < n := Nat.div_lt_self (by omega) hb
      have hlast := hf (n / b) (n % b) (Nat.mod_lt _ (by omega))
      rw [Nat.toDigits_of_base_le hb hle, List.foldlM_append, ih _ hsmaller]
      simp [hlast, Nat.div_add_mod']

/-- Zeros in front change nothing. -/
theorem foldlM_leftpad (hb : 1 < b) (hf : Appends b f) (width n : Nat) :
    ((Nat.toDigits b n).leftpad width '0').foldlM f 0 = some n := by
  have hzeros : ∀ k, (List.replicate k '0').foldlM f 0 = some 0 := by
    intro k
    induction k with
    | zero => rfl
    | succ k ih =>
      have hzero : f 0 '0' = some (0 * b + 0) := hf 0 0 (by omega)
      rw [Nat.zero_mul] at hzero
      rw [List.replicate_succ, List.foldlM_cons, hzero]
      exact ih
  rw [List.leftpad, List.foldlM_append, hzeros]
  exact foldlM_toDigits hb hf n

-- ---------------------------------------------------------------------------
-- Hexadecimal digits
-- ---------------------------------------------------------------------------

/-- The value of a hexadecimal digit in lower case. -/
def hexValue (c : Char) : Option Nat :=
  if '0' ≤ c ∧ c ≤ '9' then some (c.toNat - '0'.toNat)
  else if 'a' ≤ c ∧ c ≤ 'f' then some (c.toNat - 'a'.toNat + 10)
  else none

theorem hexValue_digitChar {d : Nat} (hd : d < 16) : hexValue (Nat.digitChar d) = some d := by
  have hall : ∀ d : Fin 16, hexValue (Nat.digitChar d) = some d.val := by decide
  exact hall ⟨d, hd⟩

/-- A byte in hexadecimal has two digits. -/
theorem leftpad_toDigits_byte (c : UInt8) :
    (Nat.toDigits 16 c.toNat).leftpad 2 '0' =
      [Nat.digitChar (c.toNat / 16), Nat.digitChar (c.toNat % 16)] := by
  have hlt : c.toNat < 256 := c.toNat_lt
  by_cases hsmall : c.toNat < 16
  · rw [Nat.toDigits_of_lt_base hsmall, Nat.div_eq_of_lt hsmall, Nat.mod_eq_of_lt hsmall]
    rfl
  · have hhigh : c.toNat / 16 < 16 := by omega
    rw [Nat.toDigits_of_base_le (by omega) (Nat.le_of_not_lt hsmall), Nat.toDigits_of_lt_base hhigh]
    rfl

end Digits
