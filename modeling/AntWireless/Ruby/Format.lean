import AntWireless.Lib.Digits
import AntWireless.Ruby
import Mathlib.Data.Int.Bitwise
import Mathlib.Data.List.DropRight

/-!
# AntWireless — what Ruby's `%d`, `%x`, `+`, `&` and `===` do with a value

The conversions and operators that the Ruby half of the library applies to values the
program gave it: they raise where the value has no such method or no integer in it.

* `strToInum`, `Value.formatD` — the integer that `%d` prints.
* `toS`, `formatX`, `formatStar` — `Integer#to_s`, `%0*x` and `%*s`.
* `Value.plus`, `Value.and`, `Value.caseEq`, `Value.nonzeroP` — what an object of the program
  answers too, where it has the method.
* `prints_of_num2ushort`, `isOk_plus_formatD`, `isOk_and_masks` — what does not raise.
* `strToInum_prefixed` — a numeral behind its prefix is read as the number it was printed for.
-/

namespace AntWireless

/-! ## Integers in strings -/

/-- `ISSPACE`. -/
def isSpace (c : UInt8) : Bool := c = 0x20 ∨ 0x09 ≤ c ∧ c ≤ 0x0D

/-- A digit, or a letter read as one. -/
def convDigit (c : UInt8) : Option Nat :=
  if 0x30 ≤ c ∧ c ≤ 0x39 then some (c.toNat - 0x30)
  else if 0x61 ≤ c ∧ c ≤ 0x7A then some (c.toNat - 0x61 + 10)
  else if 0x41 ≤ c ∧ c ≤ 0x5A then some (c.toNat - 0x41 + 10)
  else none

/-- Digits below `base`, with single underscores between them. -/
def digitsValue (base : Nat) (s : List UInt8) : Option Nat :=
  let groups := s.splitOn 0x5F
  if groups.any List.isEmpty then none
  else groups.flatten.foldlM (fun acc c =>
    (convDigit c).bind fun d => if d < base then some (acc * base + d) else none) 0

/-- The base that a prefix announces, and the digits; a leading 0 stays with them. -/
def radix : List UInt8 → Nat × List UInt8
  | 0x30 :: c :: rest =>
    if c = 0x78 ∨ c = 0x58 then (16, rest)
    else if c = 0x62 ∨ c = 0x42 then (2, rest)
    else if c = 0x6F ∨ c = 0x4F then (8, rest)
    else if c = 0x64 ∨ c = 0x44 then (10, rest)
    else (8, 0x30 :: c :: rest)
  | s => (10, s)

/-- `rb_str_to_inum( str, 0, TRUE )`: a sign, a prefix and digits between blanks. -/
def strToInum (str : List UInt8) : Except RubyError Int :=
  let s := (str.dropWhile isSpace).rdropWhile isSpace
  let (sign, s) : Int × List UInt8 :=
    match s with
    | 0x2B :: s => (1, s)
    | 0x2D :: s => (-1, s)
    | s => (1, s)
  let (base, digits) := radix s
  match digitsValue base digits with
  | some n => .ok (sign * n)
  | none => .error (.argError "invalid value for Integer()")

example : strToInum [0x20, 0x2D, 0x30, 0x78, 0x31, 0x5F, 0x46] = .ok (-0x1F) := by decide

/-- `rb_Integer` of an object: its `to_int`, or else its `to_i`. -/
def objInteger (toInt : Option Int) (methods : Methods) : Except RubyError Int :=
  match toInt, methods.call? .toI with
  | some i, _ => .ok i
  | none, some (.ok (.int i)) => .ok i
  | none, some (.error e) => .error e
  | none, _ => .error .typeError

/-- `Integer( v )`; a Float is truncated. -/
def Value.integer : Value → Except RubyError Int
  | .str bytes => strToInum bytes
  | .obj _ toInt methods => objInteger toInt methods
  | v => v.toInteger

/-! ## Formatting -/

/-- The integer that `%d` prints for the value. -/
def Value.formatD : Value → Except RubyError Int
  | .int i => .ok i
  | .float q => .ok q.floor
  | .str bytes => strToInum bytes
  | .obj _ toInt methods => objInteger toInt methods
  | .nil | .false | .true => .error .typeError

/-- The digits that `%x` prints. -/
def hexDigits (n : Nat) : String := String.ofList (Nat.toDigits 16 n)

/-- `Integer#to_s( base )`. -/
def toS (base : Nat) : Int → String
  | .ofNat n => String.ofList (Nat.toDigits base n)
  | .negSucc n => "-" ++ String.ofList (Nat.toDigits base (n + 1))

/-- The digits of the number `-1 - n` in its two's complement, down to one `f`
in front. -/
def complementDigits (n : Nat) : List Char :=
  let k := if n = 0 then 0 else (Nat.toDigits 16 n).length
  'f' :: if k = 0 then [] else (Nat.toDigits 16 (16 ^ k - 1 - n)).leftpad k '0'

/-- `%0*x` with this width; a negative number is printed as two dots and its
complement. -/
def formatX (width : Nat) : Int → String
  | .ofNat n => String.ofList ((Nat.toDigits 16 n).leftpad width '0')
  | .negSucc n => ".." ++ String.ofList ((complementDigits n).leftpad (width - 2) 'f')

example : formatX 20 (-123) = "..ffffffffffffffff85" := by decide

/-- `%*s`: blanks up to a width, which is a C `int`; behind the text if it is
negative. -/
def formatStar (width : Int) (s : String) : Except RubyError String := do
  let width ← num2int (.int width)
  if width = -2147483648 then .error (.argError "width too big")
  else if width < 0 then return String.ofList (s.toList.rightpad width.natAbs ' ')
  else return String.ofList (s.toList.leftpad width.natAbs ' ')

/-- `String#bytes` of a text in ASCII. -/
def asciiBytes (s : String) : List UInt8 := s.toList.map fun c => c.toNat.toUInt8

/-! ## Operators -/

/-- `Integer === v` for a literal: numbers are compared by value. -/
def Value.isNumber (v : Value) (i : Int) : Bool :=
  match v with
  | .int j => i = j
  | .float q => (i : Rat) = q
  | _ => Bool.false

/-- No value is two numbers: an Integer is itself, and a Float has one value. -/
theorem Value.isNumber_inj {v : Value} {i j : Int} (hi : v.isNumber i = Bool.true)
    (hj : v.isNumber j = Bool.true) : i = j := by
  cases v with
  | int k => exact (of_decide_eq_true hi).trans (of_decide_eq_true hj).symm
  | float q =>
    have hij : (i : Rat) = j := (of_decide_eq_true hi).trans (of_decide_eq_true hj).symm
    exact_mod_cast hij
  | _ => cases hi

/-- `v + i`. -/
def Value.plus (v : Value) (i : Int) : Except RubyError Value :=
  match v with
  | .int j => .ok (.int (j + i))
  | .float q => .ok (.float (q + i))
  | .str _ => .error .typeError
  | .nil | .false | .true => .error .noMethodError
  | .obj _ _ methods => methods.call (.plus i)

/-- `v & i`. -/
def Value.and (v : Value) (i : Int) : Except RubyError Value :=
  match v with
  | .int j => .ok (.int (j.land i))
  | .nil | .false => .ok .false
  | .true => .ok .true
  | .float _ | .str _ => .error .noMethodError
  | .obj _ _ methods => methods.call (.and i)

/-- `i === v` for an Integer `i`, which asks an object for its `==`;
`Object#==` is no number. -/
def Value.caseEq (v : Value) (i : Int) : Except RubyError Bool :=
  match v with
  | .obj _ _ methods => ((methods.call? (.eq i)).getD (.ok .false)).map Value.rtest
  | v => .ok (v.isNumber i)

/-- `v.nonzero?`, which numbers have. -/
def Value.nonzeroP (v : Value) : Except RubyError Bool :=
  match v with
  | .int i => .ok (i ≠ 0)
  | .float q => .ok (q ≠ 0)
  | .nil | .false | .true | .str _ => .error .noMethodError
  | .obj _ _ methods => (methods.call .nonzeroP).map Value.rtest

/-! ## What converts, prints -/

/-- `%d` prints the value. -/
def Value.prints (v : Value) : Bool := v.formatD.isOk

/-- An Integer, a Float, or an object whose `+` takes `i` and gives what `%d` prints. -/
def Value.adds (i : Int) : Value → Bool
  | .int _ | .float _ => Bool.true
  | .nil | .false | .true | .str _ => Bool.false
  | .obj _ _ methods => ((methods.call (.plus i)).bind Value.formatD).isOk

/-- An Integer, or an object whose `&` takes both masks, and gives what `%d`
prints for one and what has a `nonzero?` for the other. -/
def Value.masks (printed tested : Int) : Value → Bool
  | .int _ => Bool.true
  | .nil | .false | .true | .float _ | .str _ => Bool.false
  | .obj _ _ methods => ((methods.call (.and printed)).bind Value.formatD).isOk &&
    ((methods.call (.and tested)).bind Value.nonzeroP).isOk

/-- A value that `NUM2USHORT` accepts is one that `%d` prints: both ask an
object for its `to_int`. -/
theorem prints_of_num2ushort {v : Value} {u : UInt16} (h : num2ushort v = .ok u) :
    v.prints = Bool.true := by
  cases v with
  | int i => rfl
  | float q => rfl
  | obj id toInt methods =>
    cases toInt with
    | none => cases h
    | some i => rfl
  | _ => cases h

/-- `%d` prints `v + i` exactly for the values that `adds` names. -/
theorem isOk_plus_formatD (v : Value) (i : Int) :
    ((v.plus i).bind Value.formatD).isOk = v.adds i := by
  cases v <;> rfl

/-- `57r` is an object: its `+` gives the Rational `2457r`, which `%d` prints. -/
example : let v : Value := .obj 0 (some 57) (.returns (.plus 2400) (.obj 1 (some 2457) .none) .none)
    (v.plus 2400).bind Value.formatD = .ok 2457 := by
  decide

/-- `%d` prints `v & printed`, and `v & tested` has a `nonzero?`: of the
values that are no objects only the Integers do both, as `nil & i` and `true &
i` are no numbers. -/
theorem isOk_and_masks (v : Value) (printed tested : Int) :
    (((v.and printed).bind Value.formatD).isOk &&
      ((v.and tested).bind Value.nonzeroP).isOk) = v.masks printed tested := by
  cases v <;> rfl

/-! ## Numerals -/

/-- The digits that `Nat.toDigits` prints are read back, as bytes. -/
theorem convDigit_digitChar {d : Nat} (hd : d < 16) :
    convDigit (Nat.digitChar d).toNat.toUInt8 = some d := by
  have hall : ∀ d : Fin 16, convDigit (Nat.digitChar d).toNat.toUInt8 = some d.val := by decide
  exact hall ⟨d, hd⟩

/-- Digits, with zeros in front, have their number's value: there is no
underscore among them, and each is below the base. -/
theorem digitsValue_leftpad {base : Nat} (hb : 1 < base) (hbase : base ≤ 16) (width n : Nat) :
    digitsValue base (((Nat.toDigits base n).leftpad width '0').map fun c => c.toNat.toUInt8) =
      some n := by
  have hunderscore : (0x5F : UInt8) ∉
      ((Nat.toDigits base n).leftpad width '0').map fun c => c.toNat.toUInt8 := by
    intro hmem
    obtain ⟨c, hc, hbyte⟩ := List.mem_map.mp hmem
    obtain ⟨d, hd, rfl⟩ := Digits.exists_of_mem_leftpad hb hc
    have hconv := convDigit_digitChar (Nat.lt_of_lt_of_le hd hbase)
    rw [hbyte] at hconv
    cases hconv
  have hne : (((Nat.toDigits base n).leftpad width '0').map fun c => c.toNat.toUInt8).isEmpty =
      Bool.false := by
    rw [List.isEmpty_eq_false_iff, ne_eq, List.map_eq_nil_iff, List.leftpad,
      List.append_eq_nil_iff]
    rintro ⟨-, hnil⟩
    exact Nat.toDigits_ne_nil hnil
  unfold digitsValue
  rw [List.splitOn_eq_singleton hunderscore]
  simp only [List.any_cons, hne, List.any_nil, Bool.or_self, Bool.false_eq_true, if_false,
    List.flatten_cons, List.flatten_nil, List.append_nil, List.foldlM_map]
  refine Digits.foldlM_leftpad hb (fun acc d hd => ?_) width n
  rw [convDigit_digitChar (by omega), Option.bind_some, if_pos hd]

/-- A text with no blank in it is not stripped. -/
theorem strip_eq_self {l : List UInt8} (h : ∀ x ∈ l, isSpace x = Bool.false) :
    (l.dropWhile isSpace).rdropWhile isSpace = l := by
  have hfront : l.dropWhile isSpace = l := by
    cases l with
    | nil => rfl
    | cons x l => rw [List.dropWhile_cons, if_neg (by rw [h x List.mem_cons_self]; decide)]
  rw [hfront, List.rdropWhile_eq_self_iff]
  intro hne
  rw [h _ (List.getLast_mem hne)]
  decide

/-- **Numerals.** Digits behind the prefix of their base are read as the
number, zeros in front or not. This is what `Integer()` makes of the texts
that `to_bin` and `to_hex` write. -/
theorem strToInum_prefixed {base : Nat} {p : Char}
    (hp : base = 2 ∧ p = 'b' ∨ base = 16 ∧ p = 'x') (width n : Nat) :
    strToInum (asciiBytes (String.ofList ('0' :: p :: (Nat.toDigits base n).leftpad width '0'))) =
      .ok n := by
  have hb : 1 < base := by omega
  have hvalue := digitsValue_leftpad hb (by omega) width n
  have hdigits : ∀ x ∈ ((Nat.toDigits base n).leftpad width '0').map fun c => c.toNat.toUInt8,
      isSpace x = Bool.false := by
    intro x hx
    obtain ⟨c, hc, rfl⟩ := List.mem_map.mp hx
    obtain ⟨d, hd, rfl⟩ := Digits.exists_of_mem_leftpad hb hc
    have hall : ∀ d : Fin 16, isSpace (Nat.digitChar d).toNat.toUInt8 = Bool.false := by decide
    exact hall ⟨d, by omega⟩
  rw [asciiBytes, String.toList_ofList, List.map_cons, List.map_cons]
  generalize ((Nat.toDigits base n).leftpad width '0').map (fun c => c.toNat.toUInt8) = ds
    at hvalue hdigits
  have hstrip : ((0x30 :: p.toNat.toUInt8 :: ds).dropWhile isSpace).rdropWhile isSpace =
      0x30 :: p.toNat.toUInt8 :: ds := by
    refine strip_eq_self (List.forall_mem_cons.mpr ⟨rfl, List.forall_mem_cons.mpr ⟨?_, hdigits⟩⟩)
    rcases hp with ⟨-, rfl⟩ | ⟨-, rfl⟩ <;> rfl
  have hradix : radix (0x30 :: p.toNat.toUInt8 :: ds) = (base, ds) := by
    rcases hp with ⟨rfl, rfl⟩ | ⟨rfl, rfl⟩ <;> rfl
  have hzero : '0'.toNat.toUInt8 = 0x30 := rfl
  rw [hzero, strToInum, hstrip]
  show (match radix (0x30 :: p.toNat.toUInt8 :: ds) with
    | (base, digits) =>
      match digitsValue base digits with
      | some n => .ok (1 * n)
      | none => .error (.argError "invalid value for Integer()") : Except RubyError Int) = _
  rw [hradix]
  simp only [hvalue, Int.one_mul]

end AntWireless
