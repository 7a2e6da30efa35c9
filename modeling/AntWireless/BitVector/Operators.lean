import AntWireless.BitVector
import AntWireless.Lib.Bits

/-!
# AntWireless — operators on vectors

One loop defines a method for each of twelve operators: it takes one argument, sends the
operator with the argument's Integer to its own, and makes a new vector of the result.

* `Operator`, `Operator.send` — the operators of Integer.
* `callOperator` — the method, on the vectors that there are.
* `lawful_iff` — the operators on bits give the bits they stand for, but for `~`, which takes
  no argument.
-/

namespace AntWireless.BitVector

-- ---------------------------------------------------------------------------
-- The methods
-- ---------------------------------------------------------------------------

/-- `%w{ % & * ** + - / << >> ^ | ~ }`. -/
inductive Operator
  | mod
  | and
  | mul
  | pow
  | add
  | sub
  | div
  | shl
  | shr
  | xor
  | or
  | not
  deriving DecidableEq, Repr

inductive OperatorError
  | argumentError (msg : String)
  | zeroDivisionError
  deriving DecidableEq, Repr

/-- The error of a method that is called with another number of arguments. -/
def wrongNumber (given expected : Nat) : OperatorError :=
  .argumentError ("wrong number of arguments (given " ++ toString given ++ ", expected " ++
    toString expected ++ ")")

/-- `@bv.send( op, arg.bv )`, and `to_i` of the Rational that `**` makes of a
negative exponent. `Integer#~` takes no argument. -/
def Operator.send (op : Operator) (i j : Int) : Except OperatorError Int :=
  match op with
  | .mod => if j = 0 then .error .zeroDivisionError else .ok (i.fmod j)
  | .and => .ok (i.land j)
  | .mul => .ok (i * j)
  | .pow =>
    if 0 ≤ j then .ok (i ^ j.toNat)
    else if i = 0 then .error .zeroDivisionError
    else .ok (if i.natAbs = 1 then i ^ j.natAbs else 0)
  | .add => .ok (i + j)
  | .sub => .ok (i - j)
  | .div => if j = 0 then .error .zeroDivisionError else .ok (i.fdiv j)
  | .shl => .ok (i <<< j)
  | .shr => .ok (i >>> j)
  | .xor => .ok (i.xor j)
  | .or => .ok (i.lor j)
  | .not => .error (wrongNumber 1 0)

/-- A method that `define_method` makes, called on one of the vectors with
others as arguments: the new vector's place, and the vectors there are
then. -/
def callOperator (vectors : List BitVector) (op : Operator) (self : Fin vectors.length)
    (args : List (Fin vectors.length)) : Except OperatorError (Nat × List BitVector) :=
  match args with
  | [arg] => do
    let res ← op.send (vectors.get self).bv (vectors.get arg).bv
    return (vectors.length, vectors ++ [⟨res⟩])
  | _ => .error (wrongNumber args.length 1)

-- ---------------------------------------------------------------------------
-- Operators on bits
-- ---------------------------------------------------------------------------

/-- An operator on bits with its operands, among `n` vectors. -/
inductive BitOperation (n : Nat)
  | and (v w : Fin n)
  | or (v w : Fin n)
  | xor (v w : Fin n)
  | not (v : Fin n)
  | shl (v k : Fin n)
  | shr (v k : Fin n)
  deriving DecidableEq, Repr

namespace BitOperation

variable (vectors : List BitVector)

/-- `v & w`, `v | w`, `v ^ w`, `~v`, `v << k` and `v >> k`, as Ruby calls them. -/
def call : BitOperation vectors.length → Except OperatorError (Nat × List BitVector)
  | .and v w => callOperator vectors .and v [w]
  | .or v w => callOperator vectors .or v [w]
  | .xor v w => callOperator vectors .xor v [w]
  | .not v => callOperator vectors .not v []
  | .shl v k => callOperator vectors .shl v [k]
  | .shr v k => callOperator vectors .shr v [k]

/-- The bit `b` of the result, from the bits of the operands. -/
def bit (b : Nat) : BitOperation vectors.length → Bool
  | .and v w => (vectors.get v).isOn b && (vectors.get w).isOn b
  | .or v w => (vectors.get v).isOn b || (vectors.get w).isOn b
  | .xor v w => (vectors.get v).isOn b ^^ (vectors.get w).isOn b
  | .not v => (vectors.get v).isOff b
  | .shl v k => decide ((vectors.get k).bv ≤ b) && (vectors.get v).isOn (b - (vectors.get k).bv)
  | .shr v k => (vectors.get v).isOn (b + (vectors.get k).bv)

/-- The vector to shift by. -/
def shiftBy? : BitOperation vectors.length → Option (Fin vectors.length)
  | .shl _ k | .shr _ k => some k
  | _ => none

/-- The call returns a vector that was not there before, leaves those that
were, and gives it the bits of the operation. -/
def Lawful (e : BitOperation vectors.length) : Prop :=
  ∃ (id : Nat) (after : List BitVector) (result : BitVector), e.call vectors = .ok (id, after) ∧
    vectors.length ≤ id ∧ after[id]? = some result ∧
    (∀ i < vectors.length, after[i]? = vectors[i]?) ∧ ∀ b : Nat, result.isOn b = e.bit vectors b

variable {vectors}

/-- A call that gets a result from Integer makes a new vector of it, and
leaves the ones there are as they are. -/
theorem lawful_of_send {e : BitOperation vectors.length} {op : Operator}
    {v w : Fin vectors.length} {res : Int} (hcall : e.call vectors = callOperator vectors op v [w])
    (hsend : op.send (vectors.get v).bv (vectors.get w).bv = .ok res)
    (hbits : ∀ b : Nat, res.testBit b = e.bit vectors b) : e.Lawful vectors := by
  have hok : e.call vectors = .ok (vectors.length, vectors ++ [⟨res⟩]) := by
    rw [hcall]
    simp only [callOperator, hsend]
    rfl
  refine ⟨_, _, ⟨res⟩, hok, Nat.le_refl _, List.getElem?_concat_length, fun i hi => ?_, ?_⟩
  · exact List.getElem?_append_left hi
  · intro b
    rw [isOn_eq]
    exact hbits b

/-- **Operators.** For all vectors and each operator on bits, shifts by a
non-negative vector: the call returns a new vector with the bits of the
operation and leaves the others as they were, if and only if the operator is
not `~`. -/
theorem lawful_iff (e : BitOperation vectors.length)
    (hshift : ∀ k, e.shiftBy? vectors = some k → 0 ≤ (vectors.get k).bv) :
    e.Lawful vectors ↔ ∀ v, e ≠ .not v := by
  cases e with
  | not v =>
    refine iff_of_false ?_ fun h => h v rfl
    rintro ⟨id, after, result, hcall, -⟩
    cases hcall
  | and v w =>
    refine iff_of_true (lawful_of_send rfl rfl fun b => ?_) (by simp)
    rw [Int.testBit_land, bit, isOn_eq, isOn_eq]
  | or v w =>
    refine iff_of_true (lawful_of_send rfl rfl fun b => ?_) (by simp)
    rw [Int.testBit_lor, bit, isOn_eq, isOn_eq]
  | xor v w =>
    refine iff_of_true (lawful_of_send rfl rfl fun b => ?_) (by simp)
    rw [Int.testBit_lxor, bit, isOn_eq, isOn_eq]
  | shl v k =>
    refine iff_of_true (lawful_of_send rfl rfl fun b => ?_) (by simp)
    obtain ⟨n, hn⟩ := Int.eq_ofNat_of_zero_le (hshift k rfl)
    rw [hn, Bits.testBit_shiftLeft, bit, hn]
    by_cases hle : n ≤ b
    · have hsub : (b : Int) - n = (b - n : Nat) := by omega
      rw [hsub, isOn_eq]
      simp [hle]
    · simp [hle]
  | shr v k =>
    refine iff_of_true (lawful_of_send rfl rfl fun b => ?_) (by simp)
    obtain ⟨n, hn⟩ := Int.eq_ofNat_of_zero_le (hshift k rfl)
    have hadd : (b : Int) + n = (b + n : Nat) := by omega
    rw [hn, Bits.testBit_shiftRight, bit, hn, hadd, isOn_eq]

/-- A negative vector is shifted by another one. -/
theorem lawful_iff_shift :
    (BitOperation.shl 0 1 : BitOperation [⟨-5⟩, ⟨3⟩].length).Lawful [⟨-5⟩, ⟨3⟩] := by
  refine (lawful_iff _ ?_).mpr (by simp)
  intro k hk
  obtain rfl : 1 = k := Option.some.inj hk
  decide

/-- **No complement.** `~v` raises: the method it calls wants an argument. -/
theorem complement_raises :
    (BitOperation.not 0 : BitOperation [⟨242⟩].length).call [⟨242⟩] =
      .error (.argumentError "wrong number of arguments (given 0, expected 1)") ∧
    ¬ (BitOperation.not 0 : BitOperation [⟨242⟩].length).Lawful [⟨242⟩] := by
  refine ⟨by decide, ?_⟩
  rintro ⟨id, after, result, hcall, -⟩
  cases hcall

end BitOperation

end AntWireless.BitVector
