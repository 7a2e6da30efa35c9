import AntWireless.BitVector.Mutation

/-!
# AntWireless — comparing vectors

`<=>` compares the Integers of two vectors, and `Comparable` makes the operators of it. The
order of the Integers is that of the bits: the sign first, then the highest bit that differs.

* `spaceship`, `lt`, `gt`, `eq` — the comparisons.
* `compared_bitwise` — what they say about the bits of any two vectors, and about a vector
  before and after any sequence of changes.
-/

namespace AntWireless.BitVector

/-- The argument of a comparison: a vector, or an object without `bv`. -/
inductive Operand
  | vector (w : BitVector)
  | other
  deriving DecidableEq, Repr

/-- `<=>`. -/
def spaceship (v : BitVector) : Operand → Except RubyError Int
  | .vector w => .ok (if v.bv < w.bv then -1 else if v.bv = w.bv then 0 else 1)
  | .other => .error .noMethodError

/-- `Comparable#<`. -/
def lt (v : BitVector) (cmp : Operand) : Except RubyError Bool :=
  (v.spaceship cmp).map fun c => decide (c < 0)

/-- `Comparable#>`. -/
def gt (v : BitVector) (cmp : Operand) : Except RubyError Bool :=
  (v.spaceship cmp).map fun c => decide (0 < c)

/-- `Comparable#==`, of two objects. -/
def eq (v : BitVector) (cmp : Operand) : Except RubyError Bool :=
  (v.spaceship cmp).map fun c => decide (c = 0)

example : (⟨4096⟩ : BitVector).gt (.vector ⟨5⟩) = .ok true := by decide

-- ---------------------------------------------------------------------------
-- Two vectors
-- ---------------------------------------------------------------------------

section Comparisons

variable {v w : BitVector}

theorem lt_iff : v.lt (.vector w) = .ok true ↔ v.bv < w.bv := by
  by_cases hlt : v.bv < w.bv
  · simp [lt, spaceship, Except.map, hlt]
  · by_cases heq : v.bv = w.bv <;> simp [lt, spaceship, Except.map, hlt, heq]

theorem gt_iff : v.gt (.vector w) = .ok true ↔ w.bv < v.bv := by
  rcases Int.lt_trichotomy v.bv w.bv with hlt | heq | hgt
  · have hge : v.bv ≤ w.bv := by omega
    simp [gt, spaceship, Except.map, hlt, hge]
  · simp [gt, spaceship, Except.map, heq]
  · have hlt : ¬ v.bv < w.bv := by omega
    have hne : v.bv ≠ w.bv := by omega
    simp [gt, spaceship, Except.map, hlt, hne, hgt]

theorem eq_iff : v.eq (.vector w) = .ok true ↔ v.bv = w.bv := by
  rcases Int.lt_trichotomy v.bv w.bv with hlt | heq | hgt
  · simp [eq, spaceship, Except.map, hlt, Int.ne_of_lt hlt]
  · simp [eq, spaceship, Except.map, heq]
  · have hlt : ¬ v.bv < w.bv := by omega
    have hne : v.bv ≠ w.bv := by omega
    simp [eq, spaceship, Except.map, hlt, hne]

/-- All bits of the vector are on from some position on. -/
def EndsOn (v : BitVector) : Prop := ∃ n : Nat, ∀ b : Nat, n ≤ b → v.isOn b = true

/-- The highest bit that differs is on in `w`. -/
def HighestOn (v w : BitVector) : Prop :=
  ∃ b : Nat, v.isOff b = true ∧ w.isOn b = true ∧ ∀ c : Nat, b < c → v.isOn c = w.isOn c

/-- The bits of a negative Integer end on. -/
theorem endsOn_iff : EndsOn v ↔ v.bv < 0 := by
  obtain ⟨k, hk⟩ := Bits.testBit_sign v.bv
  constructor
  · rintro ⟨n, hn⟩
    have hon := hn (n + k) (Nat.le_add_right n k)
    rw [isOn_eq, hk _ (Nat.le_add_left k n)] at hon
    exact of_decide_eq_true hon
  · intro hneg
    refine ⟨k, fun b hb => ?_⟩
    rw [isOn_eq, hk b hb]
    exact decide_eq_true hneg

/-- The highest bit that differs, of the vectors and of their Integers. -/
theorem highestOn_iff : HighestOn v w ↔ Bits.Below v.bv w.bv := by
  have hoff : ∀ b : Nat, v.isOff b = true ↔ v.bv.testBit b = false := by
    intro b
    rw [isOff, isOn_eq, Bool.not_eq_true']
  unfold HighestOn Bits.Below
  simp only [hoff, isOn_eq]

/-- The order of two vectors, bit by bit: by their signs, and then by the
highest bit that differs. -/
theorem lt_iff_bits : v.lt (.vector w) = .ok true ↔ (EndsOn v ∧ ¬ EndsOn w) ∨ HighestOn v w := by
  rw [lt_iff, Bits.int_lt_iff, endsOn_iff, endsOn_iff, highestOn_iff, Int.not_lt]

end Comparisons

-- ---------------------------------------------------------------------------
-- Sequences of changes
-- ---------------------------------------------------------------------------

theorem exists_above (bits : List Nat) : ∃ n, ∀ b ∈ bits, b < n := by
  induction bits with
  | nil => exact ⟨0, fun _ h => absurd h List.not_mem_nil⟩
  | cons b bits ih =>
    obtain ⟨n, hn⟩ := ih
    refine ⟨b + 1 + n, fun c hc => ?_⟩
    rcases List.mem_cons.mp hc with rfl | hc
    · omega
    · have hlt := hn c hc
      omega

/-- An operation names finitely many bits. -/
theorem exists_unnamed (m : Mutation) : ∃ n : Nat, ∀ b, n ≤ b → m.onBit b = none := by
  cases m with
  | on bit | off bit | toggle bit =>
    exact ⟨bit + 1, fun b hb => if_neg (by omega)⟩
  | set bit bool =>
    have hnames : ∃ n : Nat, ∀ b, n ≤ b → bit.names b = false := by
      cases bit with
      | bit b' => exact ⟨b' + 1, fun b hb => decide_eq_false (by omega)⟩
      | each bits =>
        obtain ⟨n, hn⟩ := exists_above bits
        refine ⟨n, fun b hb => decide_eq_false fun hmem => ?_⟩
        have hlt := hn b hmem
        omega
    obtain ⟨n, hn⟩ := hnames
    exact ⟨n, fun b hb => by rw [Mutation.onBit, hn b hb]; rfl⟩

/-- From some position on, a sequence of operations leaves every bit alone. -/
theorem exists_untouched (v : BitVector) (ms : List Mutation) :
    ∃ n : Nat, ∀ b : Nat, n ≤ b → (ms.foldl mutate v).isOn b = v.isOn b := by
  induction ms generalizing v with
  | nil => exact ⟨0, fun _ _ => rfl⟩
  | cons m ms ih =>
    obtain ⟨k, hk⟩ := exists_unnamed m
    obtain ⟨n, hn⟩ := ih (v.mutate m)
    refine ⟨k + n, fun b hb => ?_⟩
    rw [List.foldl_cons, hn b (by omega)]
    have hstep := mutate_pointwise v m b
    rw [hk b (by omega)] at hstep
    exact hstep

/-- No sequence of operations changes the sign. -/
theorem endsOn_mutated (v : BitVector) (ms : List Mutation) :
    EndsOn (ms.foldl mutate v) ↔ EndsOn v := by
  obtain ⟨n, hn⟩ := exists_untouched v ms
  constructor
  · rintro ⟨k, hk⟩
    exact ⟨n + k, fun b hb => (hn b (by omega)).symm.trans (hk b (by omega))⟩
  · rintro ⟨k, hk⟩
    exact ⟨n + k, fun b hb => (hn b (by omega)).trans (hk b (by omega))⟩

/-- **Comparisons are bit by bit.** Any two vectors are equal where all their
bits are, and one is less than the other where only its sign is negative or
the highest bit that differs is off in it. So any sequence of operations makes
a vector greater exactly where the highest bit that it changes is on at the
end, and less where it is off. -/
theorem compared_bitwise :
    (∀ v w : BitVector, (v.eq (.vector w) = .ok true ↔ ∀ b : Nat, v.isOn b = w.isOn b) ∧
      (v.lt (.vector w) = .ok true ↔ (EndsOn v ∧ ¬ EndsOn w) ∨ HighestOn v w) ∧
      (w.gt (.vector v) = .ok true ↔ v.lt (.vector w) = .ok true)) ∧
    ∀ (v : BitVector) (ms : List Mutation),
      (v.lt (.vector (ms.foldl mutate v)) = .ok true ↔ HighestOn v (ms.foldl mutate v)) ∧
      (v.gt (.vector (ms.foldl mutate v)) = .ok true ↔ HighestOn (ms.foldl mutate v) v) := by
  refine ⟨fun v w => ⟨?_, lt_iff_bits, by rw [gt_iff, lt_iff]⟩, fun v ms => ⟨?_, ?_⟩⟩
  · rw [eq_iff]
    constructor
    · intro h b
      rw [isOn_eq, isOn_eq, h]
    · intro h
      exact congrArg BitVector.bv (ext_isOn h)
  · rw [lt_iff_bits, endsOn_mutated]
    exact or_iff_right fun h => h.2 h.1
  · rw [gt_iff, ← lt_iff, lt_iff_bits, endsOn_mutated]
    exact or_iff_right fun h => h.2 h.1

end AntWireless.BitVector
