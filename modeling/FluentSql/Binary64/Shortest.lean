import FluentSql.Binary64.Basic

/-! # Shortest decimal digits

Every positive number of the binary format has decimals that no other number of the format is
nearer to.  `shortest` picks one with the fewest digits, and among those the nearest.  On each
decimal grid only the two neighbours of the number can qualify, so the first grid, from coarse
to fine, on which a neighbour qualifies decides; seventeen digits always suffice. -/

namespace FluentSql

/-- The decimal `digits · 10 ^ exponent`. -/
structure Decimal where
  digits : Nat
  exponent : Int
deriving DecidableEq, Repr

/-- What becomes of a number that lies half-way between two decimals. -/
inductive Tie where
  | up
  | toEven
deriving DecidableEq, Repr

namespace Decimal

/-- The number of decimal digits of `n`. -/
def digitCount (n : Nat) : Nat := (Nat.toDigits 10 n).length

/-- The exponent `e` with `10 ^ e ≤ num / den < 10 ^ (e + 1)`, for quotients of at least
`10 ^ -400`. -/
def floorLog10 (num den : Nat) : Int := digitCount (num * Nat.pow 10 400 / den) - 401

/-- `num / den` divided by `10 ^ grid`, as a new numerator and denominator. -/
def rescale (num den : Nat) (grid : Int) : Nat × Nat :=
  if 0 ≤ grid then (num, den * Nat.pow 10 grid.toNat) else (num * Nat.pow 10 (-grid).toNat, den)

/-- The decimal without zeros at the end of its digits, at most `fuel` of them. -/
def dropZeros : Nat → Decimal → Decimal
  | 0, d => d
  | fuel + 1, d =>
      if d.digits ≠ 0 ∧ d.digits % 10 = 0 then dropZeros fuel ⟨d.digits / 10, d.exponent + 1⟩ else d

/-- The numbers that round to a given number: from `low / den` to `high / den` around
`mid / den`, the ends included or not. -/
structure Interval where
  low : Nat
  mid : Nat
  high : Nat
  den : Nat
  closed : Bool

/-- The interval around `significand · 2 ^ exponent`.  Its ends lie half-way to the neighbours in
the format; below a power of two the neighbour is twice as near. -/
def Interval.around (significand : Nat) (exponent : Int) : Interval :=
  let below := if significand = Nat.pow 2 52 ∧ -1074 < exponent then 1 else 2
  let (unit, den) := Binary64.toRatio 1 (exponent - 2)
  { low := (4 * significand - below) * unit
    mid := 4 * significand * unit
    high := (4 * significand + 2) * unit
    den := den
    closed := significand % 2 == 0 }

/-- The decimal of the grid `10 ^ grid` that stands for the interval, if there is one. -/
def Interval.onGrid? (i : Interval) (tie : Tie) (grid : Int) : Option Nat :=
  let (mid, den) := rescale i.mid i.den grid
  let (low, _) := rescale i.low i.den grid
  let (high, _) := rescale i.high i.den grid
  let under := mid / den
  let rest := 2 * (mid % den)
  let underOk := if i.closed then low ≤ under * den else low < under * den
  let overOk := if i.closed then (under + 1) * den ≤ high else (under + 1) * den < high
  let overNearer := den < rest ∨ (rest = den ∧ (tie = .up ∨ under % 2 = 1))
  if underOk then
    if overOk ∧ overNearer then some (under + 1) else some under
  else if overOk then some (under + 1)
  else none

/-- The shortest decimal for the positive number `significand · 2 ^ exponent`. -/
def shortest (tie : Tie) (significand : Nat) (exponent : Int) : Decimal :=
  let i := Interval.around significand exponent
  let top := floorLog10 i.mid i.den
  let found := (List.range 17).findSome? fun (n : Nat) =>
    (i.onGrid? tie (top - n)).map fun digits => ({ digits, exponent := top - n } : Decimal)
  dropZeros 400 (found.getD ⟨0, 0⟩)

end Decimal

end FluentSql
