/-!
# The fewest digits that read back

A finite double stands for every real that rounds to it, an interval around its value. Of the
decimal grids `10^t` the coarsest with a point in that interval gives the shortest decimal that
reads back as the double; of two points of that grid in the interval the nearer is taken, and of
two equally near the even one.

All arithmetic is on natural numbers: `Binade.ofFloat` takes the double apart, and `shortest`
tests the two neighbours of the value on the grids of 1, 2, … 17 digits.
-/

namespace Chatflow

/-- A decimal `0.d₁d₂… · 10 ^ point` with digits `d₁d₂…` read as one number. -/
structure Decimal where
  /-- The digits as one number. -/
  digits : Nat
  /-- The place of the decimal point, counted from the left of the digits. -/
  point : Int
  deriving DecidableEq, Repr

namespace Decimal

/-- The magnitude of a finite double, `mantissa · 2 ^ exponent`. -/
structure Binade where
  /-- The integral significand. -/
  mantissa : Nat
  /-- The power of two. -/
  exponent : Int
  /-- The next smaller double is half as far away as the next larger one. -/
  narrow : Bool
  deriving DecidableEq, Repr

/-- The fields of a double: its magnitude, read off its 64 bits. -/
def Binade.ofFloat (x : Float) : Binade :=
  let bits := x.toBits.toNat
  let fraction : Nat := bits % Nat.pow 2 52
  let biased : Nat := bits / Nat.pow 2 52 % Nat.pow 2 11
  if biased = 0 then ⟨fraction, -1074, false⟩
  else ⟨fraction + Nat.pow 2 52, (biased : Int) - 1075, fraction = 0 && biased > 1⟩

/-- Whether the sign bit of a double is set. -/
def isNegative (x : Float) : Bool := x.toBits.toNat / Nat.pow 2 63 = 1

/-- A power with an integer exponent as a fraction. -/
def power (base : Nat) (e : Int) : Nat × Nat :=
  if 0 ≤ e then (Nat.pow base e.toNat, 1) else (1, Nat.pow base (-e).toNat)

/-- The number of decimal digits of a positive number, at most the fuel. -/
def digitCount : Nat → Nat → Nat
  | 0, _ => 0
  | fuel + 1, n => if n = 0 then 0 else digitCount fuel (n / 10) + 1

/-- The power of ten next above `num / den`: `10 ^ (k - 1) ≤ num / den < 10 ^ k`. -/
def leadingPower (num den : Nat) : Int :=
  if den ≤ num then (digitCount 400 (num / den) : Nat)
  else
    let rec below : Nat → Nat → Int → Int
      | 0, _, k => k
      | fuel + 1, n, k => if den ≤ n * 10 then k else below fuel (n * 10) (k - 1)
    below 400 num 0

/-- The nearer of the two neighbours of `mid` on a grid of step `den`, in units of the grid, of
those that lie in the interval; all three bounds are over one denominator. -/
def onGrid (low mid high den : Nat) (closed : Bool) : Option Nat :=
  let inside (c : Nat) : Bool :=
    if closed then low ≤ c * den && c * den ≤ high else low < c * den && c * den < high
  let c := mid / den
  let rest := mid % den
  if inside c && inside (c + 1) then
    some (if 2 * rest < den || (2 * rest = den && c % 2 = 0) then c else c + 1)
  else if inside c then some c
  else if inside (c + 1) then some (c + 1)
  else none

/-- Drops the zeros at the end of a number. -/
def stripZeros : Nat → Nat → Nat
  | 0, n => n
  | fuel + 1, n => if n % 10 = 0 && n ≠ 0 then stripZeros fuel (n / 10) else n

/-- The shortest decimal that reads back as a positive magnitude. -/
def shortest (b : Binade) : Decimal :=
  let (twos, halves) := power 2 (b.exponent - 2)
  let low := (4 * b.mantissa - if b.narrow then 1 else 2) * twos
  let mid := 4 * b.mantissa * twos
  let high := (4 * b.mantissa + 2) * twos
  let lead := leadingPower mid halves
  let rec search : Nat → Nat → Decimal
    | 0, _ => ⟨0, 0⟩
    | fuel + 1, count =>
      let (up, down) := power 10 (lead - count)
      match onGrid (low * down) (mid * down) (high * down) (halves * up) (b.mantissa % 2 = 0) with
      | some c =>
        let digits := stripZeros 20 c
        ⟨digits, lead + (digitCount 400 c - count : Int)⟩
      | none => search fuel (count + 1)
  search 17 1

/-- The digits and the place of the point of a finite double; zero has no digits. -/
def ofFloat (x : Float) : Decimal :=
  let b := Binade.ofFloat x
  if b.mantissa = 0 then ⟨0, 0⟩ else shortest b

end Decimal

end Chatflow
