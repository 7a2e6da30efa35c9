import AntWireless.Ruby
import Mathlib.Data.Int.Bitwise

/-!
# AntWireless — `Ant::BitVector`

An Integer read bit by bit. A bit is named by its position, counted from the least
significant one; a negative number has its two's complement.
-/

namespace AntWireless

/-- `Integer#[]`: 0 or 1; positions below 0 hold 0. -/
def bitAt (i pos : Int) : Int := if 0 ≤ pos ∧ i.testBit pos.toNat then 1 else 0

/-- `Ant::BitVector`. -/
structure BitVector where
  bv : Int
  deriving DecidableEq, Repr

namespace BitVector

/-- `BitVector.new` of what `String#bytes` holds at an index; `nil.to_i` is 0. -/
def ofByte? (b : Option UInt8) : BitVector := ⟨(b.map fun x => (x.toNat : Int)).getD 0⟩

/-- `on?`. -/
def isOn (v : BitVector) (bit : Int) : Bool := if bitAt v.bv bit = 0 then false else true

/-- `off?`. -/
def isOff (v : BitVector) (bit : Int) : Bool := !v.isOn bit

/-- `on?` is a bit of the Integer, in two's complement. -/
theorem isOn_eq (v : BitVector) (n : Nat) : v.isOn n = v.bv.testBit n := by
  unfold isOn bitAt
  cases h : v.bv.testBit n <;> simp [h]

/-- A byte has the bits of its value, and no bit from the eighth on. -/
theorem isOn_ofByte (b : UInt8) (n : Nat) : (ofByte? (some b)).isOn n = b.toNat.testBit n := by
  rw [isOn_eq]
  rfl

end BitVector

end AntWireless
