/-!
# Reading decimals

Decimal numerals as doubles: the nearest one, or an infinity beyond the largest.
-/

namespace Chatflow

namespace Decimal

/-- The number that decimal digits stand for. -/
def natOfDigits (digits : List Char) : Nat :=
  digits.foldl (fun n c => n * 10 + (c.toNat - '0'.toNat)) 0

/-- The double nearest to `digits · 10 ^ exponent`. -/
def toFloat (digits : Nat) (exponent : Int) : Float :=
  let point : Int := (toString digits).length + exponent
  if digits = 0 || point < -400 then 0
  else if 400 < point then Float.ofScientific 1 false 400
  else Float.ofScientific digits (exponent < 0) exponent.natAbs

/-- A double with a sign put before it. -/
def signed (negative : Bool) (x : Float) : Float := if negative then -x else x

/-- The double of the digits before the point, those after it, and an exponent. -/
def ofParts (negative : Bool) (whole fraction : List Char) (exponent : Int) : Float :=
  signed negative (toFloat (natOfDigits (whole ++ fraction)) (exponent - fraction.length))

/-- The sign in front of a numeral, and what is behind it. -/
def splitSign : List Char → Bool × List Char
  | '-' :: rest => (true, rest)
  | '+' :: rest => (false, rest)
  | cs => (false, cs)

end Decimal

end Chatflow
