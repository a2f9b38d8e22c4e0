import Chatflow.Decimal.Shortest

/-!
# Decimal text

How the shortest digits of a double are laid out as text. The decisions of a format are one
record, `Layout`; the program has two formats, `Layout.json` and `Layout.plain`.
-/

namespace Chatflow

namespace Decimal

/-- What a decimal format decides beyond the digits. -/
structure Layout where
  /-- The places of the point that are written positionally; outside them an exponent is. -/
  positional : Int → Bool
  /-- What closes a positional whole number. -/
  wholeEnd : String

/-- JSON text writes a point within the first sixteen places or up to four zeros behind it,
keeps `.0` on whole numbers, and signs every exponent. -/
def Layout.json : Layout := ⟨fun point => -5 < point && point ≤ 16, ".0"⟩

/-- Plain text never has an exponent and drops `.0`. -/
def Layout.plain : Layout := ⟨fun _ => true, ""⟩

private def zeros (n : Int) : List Char := List.replicate n.toNat '0'

/-- The digits of a decimal, laid out. -/
def Layout.write (layout : Layout) (d : Decimal) : String :=
  let digits := (toString d.digits).toList
  let count : Int := digits.length
  if d.digits = 0 then "0" ++ layout.wholeEnd
  else if layout.positional d.point then
    if count ≤ d.point then String.ofList (digits ++ zeros (d.point - count)) ++ layout.wholeEnd
    else if 0 < d.point then
      String.ofList (digits.take d.point.toNat ++ '.' :: digits.drop d.point.toNat)
    else String.ofList ('0' :: '.' :: zeros (-d.point) ++ digits)
  else
    let mantissa := match digits with
      | [] => []
      | [c] => [c]
      | c :: rest => c :: '.' :: rest
    let exponent := d.point - 1
    String.ofList mantissa ++ (if exponent < 0 then "e-" else "e+") ++ toString exponent.natAbs

/-- A finite double, laid out with its sign. -/
def Layout.writeFloat (layout : Layout) (x : Float) : String :=
  (if isNegative x then "-" else "") ++ layout.write (ofFloat x)

/-- A double in plain text: `0.1`, `-0`, `1000000000000000000000`, `inf`, `NaN`. -/
def plainText (x : Float) : String :=
  if x.isNaN then "NaN"
  else if x.isInf then (if isNegative x then "-inf" else "inf")
  else Layout.plain.writeFloat x

end Decimal

end Chatflow
