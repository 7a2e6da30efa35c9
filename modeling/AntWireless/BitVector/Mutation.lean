import AntWireless.BitVector
import AntWireless.Lib.Bits

/-!
# AntWireless — switching bits

`on`, `off`, `toggle` and `[]=` replace the Integer of a vector by one that differs in the
bits they name, for Integers of either sign.

* `Mutation`, `mutate` — the operations on non-negative positions.
* `mutation_perBit` — a bit after a sequence of operations is what those that name it make of
  the bit before.
-/

namespace AntWireless.BitVector

/-- `on`. -/
def on (v : BitVector) (bit : Int) : BitVector := ⟨v.bv.lor (1 <<< bit)⟩

/-- `off`. -/
def off (v : BitVector) (bit : Int) : BitVector := ⟨v.bv.land (Int.lnot (1 <<< bit))⟩

/-- `toggle`. -/
def toggle (v : BitVector) (bit : Int) : BitVector := ⟨v.bv.xor (1 <<< bit)⟩

/-- The first argument of `[]=`: a position, or something with `each`. -/
inductive Index
  | bit (b : Nat)
  | each (bits : List Nat)
  deriving DecidableEq, Repr

/-- One bit of `[]=`. -/
def assign (v : BitVector) (bit : Int) (bool : Value) : BitVector :=
  if bool.rtest then v.on bit else v.off bit

/-- `[]=`. -/
def set (v : BitVector) (bit : Index) (bool : Value) : BitVector :=
  match bit with
  | .bit b => v.assign b bool
  | .each bits => bits.foldl (fun v (b : Nat) => v.assign b bool) v

example : (((⟨-1⟩ : BitVector).set (.each [1, 3, 1]) .nil).toggle 0).bv = -12 := by decide

/-- An operation that changes the vector. -/
inductive Mutation
  | on (bit : Nat)
  | off (bit : Nat)
  | toggle (bit : Nat)
  | set (bit : Index) (bool : Value)
  deriving DecidableEq, Repr

def mutate (v : BitVector) : Mutation → BitVector
  | .on bit => v.on bit
  | .off bit => v.off bit
  | .toggle bit => v.toggle bit
  | .set bit bool => v.set bit bool

/-- The positions an argument of `[]=` names. -/
def Index.names (b : Nat) : Index → Bool
  | .bit b' => b' = b
  | .each bits => b ∈ bits

/-- What an operation makes of the bit `b`, if it names that. -/
def Mutation.onBit (b : Nat) : Mutation → Option (Bool → Bool)
  | .on bit => if bit = b then some fun _ => true else none
  | .off bit => if bit = b then some fun _ => false else none
  | .toggle bit => if bit = b then some not else none
  | .set bit bool => if bit.names b then some fun _ => bool.rtest else none

-- ---------------------------------------------------------------------------
-- One operation
-- ---------------------------------------------------------------------------

theorem isOn_on (v : BitVector) (bit b : Nat) :
    (v.on bit).isOn b = if bit = b then true else v.isOn b := by
  rw [isOn_eq, isOn_eq, on, Int.testBit_lor, Bits.testBit_one_shiftLeft]
  by_cases h : bit = b <;> simp [h]

theorem isOn_off (v : BitVector) (bit b : Nat) :
    (v.off bit).isOn b = if bit = b then false else v.isOn b := by
  rw [isOn_eq, isOn_eq, off, Int.testBit_land, Int.testBit_lnot, Bits.testBit_one_shiftLeft]
  by_cases h : bit = b <;> simp [h]

theorem isOn_toggle (v : BitVector) (bit b : Nat) :
    (v.toggle bit).isOn b = if bit = b then !v.isOn b else v.isOn b := by
  rw [isOn_eq, isOn_eq, toggle, Int.testBit_lxor, Bits.testBit_one_shiftLeft]
  by_cases h : bit = b <;> simp [h]

theorem isOn_assign (v : BitVector) (bit b : Nat) (bool : Value) :
    (v.assign bit bool).isOn b = if bit = b then bool.rtest else v.isOn b := by
  unfold assign
  cases bool.rtest with
  | false => exact isOn_off v bit b
  | true => exact isOn_on v bit b

/-- The elements are set one by one; whether a bit is named twice makes no
difference. -/
theorem isOn_set_each (v : BitVector) (bits : List Nat) (b : Nat) (bool : Value) :
    (v.set (.each bits) bool).isOn b = if b ∈ bits then bool.rtest else v.isOn b := by
  simp only [set]
  induction bits generalizing v with
  | nil => rfl
  | cons bit bits ih =>
    rw [List.foldl_cons, ih, isOn_assign]
    by_cases hmem : b ∈ bits
    · rw [if_pos hmem, if_pos (List.mem_cons_of_mem _ hmem)]
    · rw [if_neg hmem]
      by_cases hbit : bit = b
      · simp [hbit]
      · simp [hbit, hmem, Ne.symm hbit]

/-- A vector has nothing but its bits. -/
theorem ext_isOn {v w : BitVector} (h : ∀ b : Nat, v.isOn b = w.isOn b) : v = w := by
  obtain ⟨i⟩ := v
  obtain ⟨j⟩ := w
  rw [mk.injEq]
  refine Bits.int_eq_of_testBit fun k => ?_
  have hk := h k
  rwa [isOn_eq, isOn_eq] at hk

/-- **Step.** An operation changes the bits it names, each as it says, and
looks at no other bit for that. The cases are `on`, `off`, `toggle`, and `[]=`
of a position or of several. -/
theorem mutate_pointwise :
    Pointwise (fun (v : BitVector) (b : Nat) => v.isOn b) mutate Mutation.onBit := by
  intro v m b
  cases m with
  | on bit =>
    simp only [mutate, Mutation.onBit, isOn_on]
    split <;> rfl
  | off bit =>
    simp only [mutate, Mutation.onBit, isOn_off]
    split <;> rfl
  | toggle bit =>
    simp only [mutate, Mutation.onBit, isOn_toggle]
    split <;> rfl
  | set bit bool =>
    cases bit with
    | bit bit =>
      simp only [mutate, Mutation.onBit, Index.names, set, isOn_assign, decide_eq_true_eq]
      split <;> rfl
    | each bits =>
      simp only [mutate, Mutation.onBit, Index.names, isOn_set_each, decide_eq_true_eq]
      split <;> rfl

-- ---------------------------------------------------------------------------
-- Sequences
-- ---------------------------------------------------------------------------

/-- **Mutation is per bit.** For every vector: a bit after any sequence of
operations is what those that name it, in their order, make of the bit before;
operations that name different bits commute; sequences that agree on each bit
give the same Integer; and toggling twice gives the vector back. -/
theorem mutation_perBit (v : BitVector) :
    (∀ (ms : List Mutation) (b : Nat), (ms.foldl mutate v).isOn b =
      (ms.filterMap (Mutation.onBit b)).foldl (fun bit f => f bit) (v.isOn b)) ∧
    (∀ m m' : Mutation, (∀ b, m.onBit b = none ∨ m'.onBit b = none) →
      (v.mutate m).mutate m' = (v.mutate m').mutate m) ∧
    (∀ ms ms' : List Mutation,
      (∀ b, ms.filterMap (Mutation.onBit b) = ms'.filterMap (Mutation.onBit b)) →
      (ms.foldl mutate v).bv = (ms'.foldl mutate v).bv) ∧
    ∀ bit : Nat, (v.toggle bit).toggle bit = v := by
  refine ⟨mutate_pointwise.read_foldl v, ?_, ?_, ?_⟩
  · intro m m' hdisjoint
    exact mutate_pointwise.comm (fun _ _ => ext_isOn) hdisjoint v
  · intro ms ms' hsame
    rw [mutate_pointwise.foldl_congr (fun _ _ => ext_isOn) hsame v]
  · intro bit
    refine ext_isOn fun b => ?_
    rw [isOn_toggle, isOn_toggle]
    by_cases h : bit = b <;> simp [h]

end AntWireless.BitVector
