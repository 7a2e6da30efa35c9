import AntWireless.BitVector
import AntWireless.Ruby.Format
import Mathlib.Algebra.BigOperators.Ring.Finset

/-!
# AntWireless — the views of a vector

A vector can be asked for single bits, for all of them in their order, for how many it takes
to print it, and for its numeral in base 2, 10 or 16. Each goes its own way to the Integer.

* `toI`, `toBin`, `toHex`, `size`, `each` — the views.
* `views_agree` — for a non-negative Integer they all show the same bits.
-/

namespace AntWireless.BitVector

/-- `to_i`. -/
def toI (v : BitVector) : Int := v.bv

/-- `to_bin`. -/
def toBin (v : BitVector) : String := "0b" ++ toS 2 v.bv

/-- `to_hex`. -/
def toHex (v : BitVector) : String := "0x" ++ formatX 4 v.bv

/-- `size`: the length of the numeral in base 2, with its sign. -/
def size (v : BitVector) : Nat := (toS 2 v.bv).length

/-- `String#to_i` of a single character. -/
def charToI (c : Char) : Int := if c.isDigit then (c.toNat : Int) - 48 else 0

/-- `each`: what it yields, in order. -/
def each (v : BitVector) : List Int := (toS 2 v.bv).toList.reverse.map charToI

example : (⟨242⟩ : BitVector).toHex = "0x00f2" ∧
    (⟨242⟩ : BitVector).each = [0, 1, 0, 0, 1, 1, 1, 1] := by decide

/-- The views of one vector show the same bits. -/
structure ViewsAgree (v : BitVector) : Prop where
  length : v.each.length = v.size
  zeroOne : ∀ bit ∈ v.each, bit = 0 ∨ bit = 1
  bits : ∀ i < v.size, (v.each[i]? = some 1 ↔ v.isOn i = true)
  sum : ∑ i ∈ Finset.range v.size, v.each.getD i 0 * 2 ^ i = v.toI
  beyond : ∀ i : Nat, v.size ≤ i → v.isOff i = true
  top : 0 < v.toI → v.isOn (v.size - 1 : Nat) = true
  toBin : strToInum (asciiBytes v.toBin) = .ok v.toI
  toHex : strToInum (asciiBytes v.toHex) = .ok v.toI

-- ---------------------------------------------------------------------------
-- Bits of a numeral
-- ---------------------------------------------------------------------------

section NonNegative

variable (n : Nat)

/-- The size of a non-negative vector is the number of its binary digits, one for 0. -/
theorem size_natCast : (⟨n⟩ : BitVector).size = (Nat.toDigits 2 n).length := String.length_ofList

theorem isOn_natCast (i : Nat) : (⟨n⟩ : BitVector).isOn i = true ↔ n / 2 ^ i % 2 = 1 := by
  have htest : (⟨n⟩ : BitVector).isOn i = n.testBit i := isOn_eq _ i
  rw [htest, Nat.testBit_eq_decide_div_mod_eq, decide_eq_true_eq]

/-- `each` yields them from the lowest one on, as 0 and 1. -/
theorem each_natCast (i : Nat) : (⟨n⟩ : BitVector).each[i]? =
    if i < (⟨n⟩ : BitVector).size then some ((n / 2 ^ i % 2 : Nat) : Int) else none := by
  have hbit : ∀ d < 2, charToI (Nat.digitChar d) = (d : Int) := by decide
  have hchars : (toS 2 n).toList = Nat.toDigits 2 n := String.toList_ofList
  rw [each, hchars, size_natCast, List.getElem?_map,
    Digits.getElem?_reverse_toDigits (by decide)]
  split
  · rw [Option.map_some, hbit _ (Nat.mod_lt _ (by decide))]
  · rfl

/-- All bits lie below `size`. -/
theorem lt_two_pow_size : n < 2 ^ (⟨n⟩ : BitVector).size := by
  rw [size_natCast]
  exact Digits.lt_pow_length (by decide) n

/-- The first digit of a positive number is a 1: there are no zeros in front. -/
theorem top_bit (hn : 0 < n) : n / 2 ^ ((⟨n⟩ : BitVector).size - 1) % 2 = 1 := by
  have hpos : 0 < (⟨n⟩ : BitVector).size := by
    rw [size_natCast]
    exact Nat.length_toDigits_pos
  have hhigh := lt_two_pow_size n
  have hlow : 2 ^ ((⟨n⟩ : BitVector).size - 1) ≤ n := by
    by_cases hone : (⟨n⟩ : BitVector).size = 1
    · rw [hone]
      exact hn
    · refine Digits.pow_le_of_lt_length (by decide) (by omega) ?_
      rw [← size_natCast]
      omega
  have hsplit : 2 ^ (⟨n⟩ : BitVector).size = 2 * 2 ^ ((⟨n⟩ : BitVector).size - 1) := by
    rw [← Nat.pow_succ']
    congr 1
    omega
  have hquot : n / 2 ^ ((⟨n⟩ : BitVector).size - 1) = 1 :=
    Nat.div_eq_of_lt_le (by omega) (by omega)
  rw [hquot]

/-- The bits that `each` yields are the places of the number. -/
theorem sum_each : ∑ i ∈ Finset.range (⟨n⟩ : BitVector).size,
    (⟨n⟩ : BitVector).each.getD i 0 * 2 ^ i = n := by
  have hplaces : ∀ i ∈ Finset.range (⟨n⟩ : BitVector).size,
      (⟨n⟩ : BitVector).each.getD i 0 * 2 ^ i = ((n / 2 ^ i % 2 * 2 ^ i : Nat) : Int) := by
    intro i hi
    rw [List.getD_eq_getElem?_getD, each_natCast, if_pos (Finset.mem_range.mp hi)]
    push_cast
    rfl
  rw [Finset.sum_congr rfl hplaces, ← Nat.cast_sum, size_natCast, Digits.sum_places (by decide)]

theorem isOff_of_size_le {i : Nat} (hi : (⟨n⟩ : BitVector).size ≤ i) :
    (⟨n⟩ : BitVector).isOff i = true := by
  have hlt : n < 2 ^ i :=
    Nat.lt_of_lt_of_le (lt_two_pow_size n) (Nat.pow_le_pow_right (by decide) hi)
  rw [isOff, Bool.not_eq_true', ← Bool.not_eq_true, isOn_natCast, Nat.div_eq_of_lt hlt]
  decide

/-- `to_bin` is a numeral that Ruby reads as the number. -/
theorem strToInum_toBin : strToInum (asciiBytes (⟨n⟩ : BitVector).toBin) = .ok n := by
  have htext : (⟨n⟩ : BitVector).toBin =
      String.ofList ('0' :: 'b' :: (Nat.toDigits 2 n).leftpad 0 '0') := by
    show "0b" ++ String.ofList (Nat.toDigits 2 n) = _
    rw [← String.toList_inj]
    simp [List.leftpad]
  rw [htext, strToInum_prefixed (.inl ⟨rfl, rfl⟩)]

/-- So is `to_hex`, with the zeros it has in front. -/
theorem strToInum_toHex : strToInum (asciiBytes (⟨n⟩ : BitVector).toHex) = .ok n := by
  have htext : (⟨n⟩ : BitVector).toHex =
      String.ofList ('0' :: 'x' :: (Nat.toDigits 16 n).leftpad 4 '0') := by
    show "0x" ++ String.ofList ((Nat.toDigits 16 n).leftpad 4 '0') = _
    rw [← String.toList_inj]
    simp
  rw [htext, strToInum_prefixed (.inr ⟨rfl, rfl⟩)]

/-- **Views.** For every non-negative Integer the views of its vector agree:
`each` yields as many bits as `size` says, the ones that `on?` says, which add
up to `to_i`; beyond `size` all bits are off, and the last one before is on;
and both numerals are read as `to_i`. -/
theorem views_agree : ViewsAgree ⟨n⟩ where
  length := by rw [each, List.length_map, List.length_reverse]; rfl
  zeroOne := by
    intro bit hbit
    obtain ⟨i, hi⟩ := List.mem_iff_getElem?.mp hbit
    rw [each_natCast] at hi
    split at hi
    · have hmod := Nat.mod_lt (n / 2 ^ i) (show 0 < 2 by decide)
      rw [Option.some.injEq] at hi
      omega
    · cases hi
  bits := by
    intro i hi
    rw [each_natCast, if_pos hi, isOn_natCast, Option.some.injEq]
    omega
  sum := sum_each n
  beyond := fun _ hi => isOff_of_size_le n hi
  top := by
    intro hpos
    rw [isOn_natCast]
    exact top_bit n (Int.natCast_pos.mp hpos)
  toBin := strToInum_toBin n
  toHex := strToInum_toHex n

end NonNegative

end AntWireless.BitVector
