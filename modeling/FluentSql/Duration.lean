/-! # Durations

A `Duration` is a whole number of nanoseconds.  It is written exactly, in the largest of the
units s, ms, µs and ns that does not exceed it. -/

namespace FluentSql

/-- A span of time, in nanoseconds. -/
structure Duration where
  nanoseconds : Nat
deriving DecidableEq, Repr

namespace Duration

instance : LE Duration := ⟨fun a b => a.nanoseconds ≤ b.nanoseconds⟩

instance (a b : Duration) : Decidable (a ≤ b) :=
  inferInstanceAs (Decidable (a.nanoseconds ≤ b.nanoseconds))

/-- No time. -/
def zero : Duration := ⟨0⟩

/-- So many seconds and nanoseconds. -/
def ofParts (seconds nanoseconds : Nat) : Duration := ⟨seconds * Nat.pow 10 9 + nanoseconds⟩

/-- The whole seconds. -/
def seconds (d : Duration) : Nat := d.nanoseconds / Nat.pow 10 9

/-- The nanoseconds beyond the whole seconds. -/
def subsecond (d : Duration) : Nat := d.nanoseconds % Nat.pow 10 9

/-- `n` with at least `width` digits. -/
def padded (width n : Nat) : List Char :=
  let digits := Nat.toDigits 10 n
  List.replicate (width - digits.length) '0' ++ digits

/-- The digits without the zeros at their end. -/
def dropTrailingZeros (digits : List Char) : List Char :=
  (digits.reverse.dropWhile (· = '0')).reverse

/-- `n / 10 ^ places`, exactly and without zeros at the end. -/
def fixedPoint (n places : Nat) : String :=
  match dropTrailingZeros (padded places (n % Nat.pow 10 places)) with
  | [] => toString (n / Nat.pow 10 places)
  | digits => toString (n / Nat.pow 10 places) ++ "." ++ String.ofList digits

/-- The duration with its unit. -/
def text (d : Duration) : String :=
  if Nat.pow 10 9 ≤ d.nanoseconds then fixedPoint d.nanoseconds 9 ++ "s"
  else if Nat.pow 10 6 ≤ d.nanoseconds then fixedPoint d.nanoseconds 6 ++ "ms"
  else if Nat.pow 10 3 ≤ d.nanoseconds then fixedPoint d.nanoseconds 3 ++ "µs"
  else toString d.nanoseconds ++ "ns"

end Duration

end FluentSql
