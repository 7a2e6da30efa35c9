import Mathlib.Data.Rat.Floor

/-!
# AntWireless — the Ruby side of the extension

The part of the Ruby C API that the extension uses: values as far as the C code
looks at them, truth (`RTEST`), the exceptions that unwind through it, the
conversions of arguments to C integers, and `rb_protect`.
-/

namespace AntWireless

/-! ## Values -/

/-- The exceptions raised by Ruby's own conversions and lookups, and those the
extension raises with a text of its own. -/
inductive RubyError
  | typeError
  | rangeError
  | keyError
  | noMethodError
  | notImplementedError
  | argError (msg : String)
  | localJumpError (msg : String)
  | runtimeError (msg : String)
  | systemCallError (msg : String)
  deriving DecidableEq, Repr

/-- What Ruby and the Ruby half of the library call on an object that the
program gave them, besides `to_int`. -/
inductive Message
  | toI
  | plus (i : Int)
  | and (i : Int)
  | eq (i : Int)
  | nonzeroP
  deriving DecidableEq, Repr

mutual

/-- A Ruby `VALUE`. `float` is a finite Float; any other object is told apart
by `id`, may have a `to_int`, and has the methods that `methods` lists. -/
inductive Value
  | nil
  | false
  | true
  | int (i : Int)
  | float (q : Rat)
  | str (bytes : List UInt8)
  | obj (id : Nat) (toInt : Option Int) (methods : Methods)
  deriving DecidableEq, Repr

/-- The methods of an object, with what each always returns or raises. -/
inductive Methods
  | none
  | returns (m : Message) (v : Value) (rest : Methods)
  | raises (m : Message) (e : RubyError) (rest : Methods)
  deriving DecidableEq, Repr

end

/-- What a call of the method gives, if the object has it. -/
def Methods.call? : Methods → Message → Option (Except RubyError Value)
  | .none, _ => Option.none
  | .returns m v rest, m' => if m = m' then some (.ok v) else rest.call? m'
  | .raises m e rest, m' => if m = m' then some (.error e) else rest.call? m'

/-- What a call of the method gives; an object without it raises NoMethodError. -/
def Methods.call (methods : Methods) (m : Message) : Except RubyError Value :=
  (methods.call? m).getD (.error .noMethodError)

/-- `RTEST`: every value but `nil` and `false` is true. -/
def Value.rtest : Value → Bool
  | .nil | .false => Bool.false
  | _ => Bool.true

/-- The property holds of the value, if there is one. -/
def IfOk {α : Type} (P : α → Prop) : Except RubyError α → Prop
  | .ok v => P v
  | .error _ => True

@[simp] theorem ifOk_ok {α : Type} {P : α → Prop} (v : α) : IfOk P (.ok v) ↔ P v := Iff.rfl

@[simp] theorem ifOk_error {α : Type} {P : α → Prop} (e : RubyError) : IfOk P (.error e) :=
  trivial

instance decidableIfOk {α : Type} (P : α → Prop) [DecidablePred P] : ∀ x, Decidable (IfOk P x)
  | .ok v => inferInstanceAs (Decidable (P v))
  | .error _ => inferInstanceAs (Decidable True)

/-! ## Conversions to C integers -/

/-- `to_int` of a value, as `rb_num2long` asks for it; a Float is truncated. -/
def Value.toInteger : Value → Except RubyError Int
  | .int i => .ok i
  | .float q => .ok (if 0 ≤ q then q.floor else q.ceil)
  | .obj _ (some i) _ => .ok i
  | _ => .error .typeError

/-- An integer in `lo..hi`, or a RangeError. -/
def checkRange (lo hi i : Int) : Except RubyError Int :=
  if lo ≤ i ∧ i ≤ hi then .ok i else .error .rangeError

/-- `NUM2INT`: a C `int`. -/
def num2int (v : Value) : Except RubyError Int :=
  v.toInteger.bind (checkRange (-2147483648) 2147483647)

/-- `NUM2SHORT`: a C `short`. -/
def num2short (v : Value) : Except RubyError Int :=
  v.toInteger.bind (checkRange (-32768) 32767)

/-- `NUM2CHR`: the first byte of a nonempty string, else the low byte of a C `int`. -/
def num2chr : Value → Except RubyError UInt8
  | .str (b :: _) => .ok b
  | v => (num2int v).map fun i => UInt8.ofInt i

/-- `if ( RTEST(v) ) x = NUM2CHR( v )` for an `x` that is 0. -/
def optionalChr (v : Value) : Except RubyError UInt8 := if v.rtest then num2chr v else .ok 0

/-- `NUM2USHORT`: accepts `-32768..65535`, wrapping negatives. -/
def num2ushort (v : Value) : Except RubyError UInt16 :=
  (v.toInteger.bind (checkRange (-32768) 65535)).map fun i => UInt16.ofInt i

/-- `NUM2UINT`: accepts `-2^31..2^32-1`, wrapping negatives. -/
def num2uint (v : Value) : Except RubyError UInt32 :=
  (v.toInteger.bind (checkRange (-2147483648) 4294967295)).map fun i => UInt32.ofInt i

/-- `StringValue`; the objects here have no `to_str`. -/
def stringValue : Value → Except RubyError (List UInt8)
  | .str bytes => .ok bytes
  | _ => .error .typeError

/-- `StringValueCStr`: the bytes of a C string. -/
def stringValueCStr (v : Value) : Except RubyError (List UInt8) := do
  let bytes ← stringValue v
  if 0 ∈ bytes then .error (.argError "string contains null byte") else return bytes

/-! ### What an Integer becomes -/

/-- Cutting an integer to a byte is taking it modulo 256. -/
theorem ofInt8_eq_iff {i : Int} {c : UInt8} : UInt8.ofInt i = c ↔ (c.toNat : Int) = i % 256 := by
  have hlt : c.toNat < 256 := c.toNat_lt
  rw [← UInt8.toNat_inj, UInt8.ofInt, UInt8.toNat_ofNat']
  omega

theorem ofInt16_eq_iff {i : Int} {u : UInt16} :
    UInt16.ofInt i = u ↔ (u.toNat : Int) = i % 65536 := by
  have hlt : u.toNat < 65536 := u.toNat_lt
  rw [← UInt16.toNat_inj, UInt16.ofInt, UInt16.toNat_ofNat']
  omega

theorem ofInt32_eq_iff {i : Int} {u : UInt32} :
    UInt32.ofInt i = u ↔ (u.toNat : Int) = i % 4294967296 := by
  have hlt : u.toNat < 4294967296 := u.toNat_lt
  rw [← UInt32.toNat_inj, UInt32.ofInt, UInt32.toNat_ofNat']
  omega

/-- A conversion is a range check, and then a cut. -/
theorem map_checkRange_eq_ok_iff {α : Type} {lo hi i : Int} {f : Int → α} {x : α} :
    (checkRange lo hi i).map f = .ok x ↔ (lo ≤ i ∧ i ≤ hi) ∧ f i = x := by
  unfold checkRange
  by_cases hrange : lo ≤ i ∧ i ≤ hi
  · simp [hrange, Except.map]
  · simp [hrange, Except.map]

/-- Any C `int` passes as a byte, so all but the low byte is lost without a word. -/
theorem num2chr_int_iff {i : Int} {c : UInt8} :
    num2chr (.int i) = .ok c ↔
      (-2147483648 ≤ i ∧ i ≤ 2147483647) ∧ (c.toNat : Int) = i % 256 := by
  rw [← ofInt8_eq_iff]
  exact map_checkRange_eq_ok_iff

/-- Negative numbers down to -32768 pass as an unsigned short. -/
theorem num2ushort_int_iff {i : Int} {u : UInt16} :
    num2ushort (.int i) = .ok u ↔ (-32768 ≤ i ∧ i ≤ 65535) ∧ (u.toNat : Int) = i % 65536 := by
  rw [← ofInt16_eq_iff]
  exact map_checkRange_eq_ok_iff

/-- So do those down to -2147483648 as an unsigned int. -/
theorem num2uint_int_iff {i : Int} {u : UInt32} :
    num2uint (.int i) = .ok u ↔
      (-2147483648 ≤ i ∧ i ≤ 4294967295) ∧ (u.toNat : Int) = i % 4294967296 := by
  rw [← ofInt32_eq_iff]
  exact map_checkRange_eq_ok_iff

/-! ### Two conversions of one value -/

/-- Cutting to sixteen bits first makes no difference to the low byte. -/
theorem toUInt8_ofInt16 (i : Int) : (UInt16.ofInt i).toUInt8 = UInt8.ofInt i := by
  have hlow : ((UInt16.ofInt i).toNat : Int) = i % 65536 := ofInt16_eq_iff.mp rfl
  refine (ofInt8_eq_iff.mpr ?_).symm
  rw [UInt16.toNat_toUInt8]
  omega

/-- Both conversions of a value that is not a string read the same integer,
and keep its low byte. -/
theorem low_byte_agrees {x : Except RubyError Int} {u : UInt16} {c : UInt8}
    (hu : (x.bind (checkRange (-32768) 65535)).map (fun i => UInt16.ofInt i) = .ok u)
    (hc : (x.bind (checkRange (-2147483648) 2147483647)).map (fun i => UInt8.ofInt i) = .ok c) :
    u.toUInt8 = c := by
  cases x with
  | error e => cases hu
  | ok i =>
    obtain ⟨-, rfl⟩ := map_checkRange_eq_ok_iff.mp hu
    obtain ⟨-, rfl⟩ := map_checkRange_eq_ok_iff.mp hc
    exact toUInt8_ofInt16 i

/-- The low byte of the unsigned short of a value is its `NUM2CHR`, wherever
both conversions succeed. A string converts with `NUM2CHR` only. -/
theorem num2chr_of_num2ushort {v : Value} {u : UInt16} {c : UInt8}
    (hu : num2ushort v = .ok u) (hc : num2chr v = .ok c) : u.toUInt8 = c := by
  cases v with
  | str bytes => cases hu
  | _ => exact low_byte_agrees hu hc

/-! ## Protected calls -/

/-- How a Ruby callback function ends: with a value, or by an exception. -/
inductive FnResult
  | returned (v : Value)
  | raised
  deriving DecidableEq, Repr

/-- `rb_protect`: the value, and whether the function raised; `Qnil` then. -/
def rbProtect : FnResult → Value × Bool
  | .returned v => (v, Bool.false)
  | .raised => (.nil, Bool.true)

/-- `RTEST` of what a protected call gives back. -/
def FnResult.truth (r : FnResult) : Bool := (rbProtect r).1.rtest

end AntWireless
