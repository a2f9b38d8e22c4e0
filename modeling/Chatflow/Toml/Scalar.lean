import Chatflow.Decimal.Reader
import Chatflow.Toml.Text

/-!
# TOML scalars

Numbers, truth values and dates. A date is kept as a record of one field with its text.
-/

namespace Chatflow

namespace Toml

/-! ### Digits -/

/-- Reads digits, of which two may have an underscore between them. -/
def readDigits (isDigit : Char → Bool) : (fuel : Nat) → Reader (List Char)
  | 0, _ => none
  | fuel + 1, cs =>
    match cs with
    | c :: rest =>
      if !isDigit c then none
      else
        match rest with
        | '_' :: rest =>
          (readDigits isDigit fuel rest).map fun (ds, rest) => (c :: ds, rest)
        | d :: _ =>
          if isDigit d then
            (readDigits isDigit fuel rest).map fun (ds, rest) => (c :: ds, rest)
          else some ([c], rest)
        | [] => some ([c], [])
    | [] => none

/-- Reads decimal digits. -/
def readDecimals (cs : List Char) : Option (List Char × List Char) :=
  readDigits Char.isDigit (cs.length + 1) cs

/-- Reads decimal digits without a zero in front of others. -/
def readWhole (cs : List Char) : Option (List Char × List Char) :=
  match cs with
  | '0' :: rest => some (['0'], rest)
  | _ => readDecimals cs

/-- Reads the digits of a number in another base. -/
def readBased (base : Nat) (cs : List Char) : Option (Nat × List Char) := do
  let value (c : Char) := (Json.hexValue? c).filter (· < base)
  let (digits, rest) ← readDigits (fun c => (value c).isSome) (cs.length + 1) cs
  return (digits.foldl (fun n c => n * base + (value c).getD 0) 0, rest)

/-! ### Numbers -/

/-- A whole number that fits 64 bits with a sign. -/
def whole? (n : Int) : Option Json :=
  if -9223372036854775808 ≤ n && n < 9223372036854775808 then some (.int n) else none

/-- A double that is not infinite for being too large. -/
def real? (x : Float) : Option Json := if x.isInf && 0 < x then none else some (.real x)

/-- Reads the digits behind a point, if there is one. -/
def readFraction : Reader (Option (List Char))
  | '.' :: rest => (readDecimals rest).map fun (digits, rest) => (some digits, rest)
  | cs => some (none, cs)

/-- Reads the number behind the letter of an exponent, if there is one. -/
def readExponent (cs : List Char) : Option (Option Int × List Char) :=
  match cs with
  | 'e' :: rest | 'E' :: rest => do
    let (down, rest) := Decimal.splitSign rest
    let (digits, rest) ← readDecimals rest
    let n : Int := Decimal.natOfDigits digits
    return (some (if down then -n else n), rest)
  | cs => some (none, cs)

/-- Reads a decimal number, after its sign. -/
def readDecimal (negative : Bool) (cs : List Char) : Option (Json × List Char) := do
  let (digits, rest) ← readWhole cs
  let (fraction, rest) ← readFraction rest
  let (exponent, rest) ← readExponent rest
  if fraction.isNone && exponent.isNone then
    let n : Int := Decimal.natOfDigits digits
    return (← whole? (if negative then -n else n), rest)
  else
    let x := Decimal.ofParts negative digits (fraction.getD []) (exponent.getD 0)
    return (← real? x, rest)

/-- Reads a number. -/
def readNumber (cs : List Char) : Option (Json × List Char) :=
  let (negative, rest) := Decimal.splitSign cs
  match cs, rest with
  | _, 'i' :: 'n' :: 'f' :: rest => some (.real (Decimal.signed negative (1 / 0)), rest)
  | _, 'n' :: 'a' :: 'n' :: rest => some (.real (Decimal.signed negative (0 / 0)), rest)
  | '0' :: 'x' :: rest, _ => do
    let (n, rest) ← readBased 16 rest
    return (← whole? n, rest)
  | '0' :: 'o' :: rest, _ => do
    let (n, rest) ← readBased 8 rest
    return (← whole? n, rest)
  | '0' :: 'b' :: rest, _ => do
    let (n, rest) ← readBased 2 rest
    return (← whole? n, rest)
  | _, rest => readDecimal negative rest

/-! ### Dates -/

/-- Reads a number of exactly some digits between two bounds. -/
def readPart (digits low high : Nat) (cs : List Char) : Option (Nat × List Char) :=
  let part := cs.take digits
  let n := Decimal.natOfDigits part
  if part.length = digits && part.all Char.isDigit && low ≤ n && n ≤ high then
    some (n, cs.drop digits)
  else none

/-- A number with zeros in front. -/
def padded (digits n : Nat) : String :=
  let text := toString n
  String.ofList (List.replicate (digits - text.length) '0') ++ text

/-- The number of days of a month. -/
def daysOf (year month : Nat) : Nat :=
  if month = 2 then
    if year % 4 = 0 && (year % 100 ≠ 0 || year % 400 = 0) then 29 else 28
  else if month = 4 || month = 6 || month = 9 || month = 11 then 30
  else 31

/-- Drops an expected character. -/
def expect (c : Char) : List Char → Option (List Char)
  | d :: rest => if d = c then some rest else none
  | [] => none

/-- Reads a day. -/
def readDay (cs : List Char) : Option (String × List Char) := do
  let (year, cs) ← readPart 4 0 9999 cs
  let (month, cs) ← readPart 2 1 12 (← expect '-' cs)
  let (day, cs) ← readPart 2 1 (daysOf year month) (← expect '-' cs)
  return (padded 4 year ++ "-" ++ padded 2 month ++ "-" ++ padded 2 day, cs)

/-- The text of a fraction of a second: at most nine digits, without zeros at the end. -/
def fractionText (digits : List Char) : String :=
  let kept := ((digits.take 9).reverse.dropWhile (· = '0')).reverse
  if kept.isEmpty then "" else "." ++ String.ofList kept

/-- Reads a time of day. -/
def readTime (cs : List Char) : Option (String × List Char) := do
  let (hour, cs) ← readPart 2 0 23 cs
  let (minute, cs) ← readPart 2 0 59 (← expect ':' cs)
  let (second, cs) ← readPart 2 0 60 (← expect ':' cs)
  let text := padded 2 hour ++ ":" ++ padded 2 minute ++ ":" ++ padded 2 second
  match cs with
  | '.' :: rest =>
    let digits := rest.takeWhile Char.isDigit
    if digits.isEmpty then none
    else return (text ++ fractionText digits, rest.drop digits.length)
  | rest => return (text, rest)

/-- Reads the offset of a time, if there is one. -/
def readOffset (cs : List Char) : Option (String × List Char) :=
  match cs with
  | 'Z' :: rest | 'z' :: rest => some ("Z", rest)
  | c :: rest =>
    if c = '+' || c = '-' then do
      let (hour, rest) ← readPart 2 0 23 rest
      let (minute, rest) ← readPart 2 0 59 (← expect ':' rest)
      return (String.singleton c ++ padded 2 hour ++ ":" ++ padded 2 minute, rest)
    else some ("", cs)
  | [] => some ("", [])

/-- The value of a date of a given text. -/
def date (text : String) : Json := .record [("$__toml_private_datetime", .str text)]

/-- Reads a day, a time of day, or both. -/
def readDate (cs : List Char) : Option (Json × List Char) :=
  if (cs.take 5).getLast? = some '-' then do
    let (day, rest) ← readDay cs
    let timed (clock : List Char) := do
      let (time, rest) ← readTime clock
      let (offset, rest) ← readOffset rest
      return (date (day ++ "T" ++ time ++ offset), rest)
    match rest with
    | 'T' :: clock | 't' :: clock => timed clock
    | ' ' :: clock =>
      if (clock.head?.map Char.isDigit).getD false then timed clock else return (date day, rest)
    | _ => return (date day, rest)
  else (readTime cs).map fun (time, rest) => (date time, rest)

/-- Whether the characters in front are those of a date. -/
def looksLikeDate (cs : List Char) : Bool :=
  ((cs.take 4).all Char.isDigit && cs[4]? = some '-') ||
    ((cs.take 2).all Char.isDigit && cs[2]? = some ':')

/-- Reads a truth value, a date or a number. -/
def readScalar? (cs : List Char) : Option (Json × List Char) :=
  match cs with
  | 't' :: 'r' :: 'u' :: 'e' :: rest => some (.bool true, rest)
  | 'f' :: 'a' :: 'l' :: 's' :: 'e' :: rest => some (.bool false, rest)
  | cs => if looksLikeDate cs then readDate cs else readNumber cs

end Toml

end Chatflow
