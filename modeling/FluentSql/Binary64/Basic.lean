/-! # Binary floating point

A `Binary64` is a number in the 64-bit binary format, held by its bits.  `view` reads the bits as
`significand · 2 ^ exponent`, an infinity or no number.  `ofRatio` is the way back: it rounds a
quotient of naturals to the nearest number of the format, and of two equally near ones to the
one with the even significand. -/

namespace FluentSql

/-- A number in the 64-bit binary floating point format. -/
structure Binary64 where
  bits : UInt64
deriving DecidableEq, Repr

namespace Binary64

/-- What the bits of a number stand for. -/
inductive View where
  | nan
  | infinite (negative : Bool)
  | finite (negative : Bool) (significand : Nat) (exponent : Int)
deriving DecidableEq, Repr

/-- The stored exponent of the infinities and of the values that are no number. -/
def topExponent : Nat := 2047

/-- Whether the sign bit is set. -/
def isNegative (x : Binary64) : Bool := x.bits.toNat / Nat.pow 2 63 == 1

/-- The eleven exponent bits. -/
def storedExponent (x : Binary64) : Nat := x.bits.toNat / Nat.pow 2 52 % Nat.pow 2 11

/-- The fifty-two bits after the leading one. -/
def fraction (x : Binary64) : Nat := x.bits.toNat % Nat.pow 2 52

/-- The value of the number.  A stored exponent of zero means that there is no leading one. -/
def view (x : Binary64) : View :=
  if x.storedExponent = topExponent then
    if x.fraction = 0 then .infinite x.isNegative else .nan
  else if x.storedExponent = 0 then .finite x.isNegative x.fraction (-1074)
  else .finite x.isNegative (Nat.pow 2 52 + x.fraction) (x.storedExponent - 1075)

/-- The number with the given sign and the given other bits. -/
def ofSignBits (negative : Bool) (rest : Nat) : Binary64 :=
  ⟨UInt64.ofNat ((if negative then Nat.pow 2 63 else 0) + rest)⟩

/-- Zero with a sign. -/
def zero (negative : Bool) : Binary64 := ofSignBits negative 0

/-- Infinity with a sign. -/
def infinity (negative : Bool) : Binary64 := ofSignBits negative (topExponent * Nat.pow 2 52)

/-! ### Rounding -/

/-- `num / den` rounded to the nearest natural, a half to the even one. -/
def roundHalfEven (num den : Nat) : Nat :=
  let quotient := num / den
  let rest := 2 * (num % den)
  if rest < den ∨ (rest = den ∧ quotient % 2 = 0) then quotient else quotient + 1

/-- `num / den` scaled by `2 ^ shift`, as a new numerator and denominator. -/
def scale (num den : Nat) (shift : Int) : Nat × Nat :=
  if 0 ≤ shift then (num * Nat.pow 2 shift.toNat, den) else (num, den * Nat.pow 2 (-shift).toNat)

/-- The exponent `e` with `2 ^ e ≤ num / den < 2 ^ (e + 1)`, for positive `num` and `den`. -/
def floorLog2 (num den : Nat) : Int :=
  let guess : Int := num.log2 - den.log2
  let (n, d) := scale num den (-guess)
  if d ≤ n then guess else guess - 1

/-- The number nearest to `num / den`; infinity when it lies beyond the format. -/
def ofRatio (negative : Bool) (num den : Nat) : Binary64 :=
  if num = 0 then zero negative
  else
    let exponent := max (floorLog2 num den - 52) (-1074)
    let (n, d) := scale num den (-exponent)
    let rest : Nat := (exponent + 1074).toNat * Nat.pow 2 52 + roundHalfEven n d
    if rest < topExponent * Nat.pow 2 52 then ofSignBits negative rest else infinity negative

/-- The numerator and denominator of a finite number's magnitude. -/
def toRatio (significand : Nat) (exponent : Int) : Nat × Nat := scale significand 1 exponent

/-- The number nearest to a natural. -/
def ofNat (n : Nat) : Binary64 := ofRatio false n 1

/-- The number nearest to `x · num / den`. -/
def mulRatio (x : Binary64) (num den : Nat) : Binary64 :=
  match x.view with
  | .finite negative significand exponent =>
      let (n, d) := toRatio significand exponent
      ofRatio negative (n * num) (d * den)
  | _ => x

/-- `x` with the sign bit turned round. -/
def negate (x : Binary64) : Binary64 :=
  ofSignBits (!x.isNegative) (x.bits.toNat % Nat.pow 2 63)

/-- Whether the number is an infinity. -/
def isInfinite (x : Binary64) : Bool :=
  match x.view with
  | .infinite _ => true
  | _ => false

/-- Whether the number is zero, of either sign. -/
def isZero (x : Binary64) : Bool :=
  match x.view with
  | .finite _ 0 _ => true
  | _ => false

/-- The number that a bit pattern of the 32-bit format stands for; every one is exact. -/
def ofBinary32 (bits : UInt32) : Binary64 :=
  let negative := bits.toNat / Nat.pow 2 31 == 1
  let stored : Nat := bits.toNat / Nat.pow 2 23 % Nat.pow 2 8
  let fraction : Nat := bits.toNat % Nat.pow 2 23
  if stored = 255 then ofSignBits negative (topExponent * Nat.pow 2 52 + fraction * Nat.pow 2 29)
  else
    let (n, d) :=
      if stored = 0 then scale fraction 1 (-149)
      else scale (Nat.pow 2 23 + fraction) 1 ((stored : Int) - 150)
    ofRatio negative n d

end Binary64

end FluentSql
