import Chatflow.Json.Basic

/-!
# Reading JSON text

`Json.parse` reads one value and nothing after it but blanks. Values nest fewer than 128 deep; of
two fields of one name the later stays. A whole number that fits 64 bits stays whole; every other
number is a double, scaled once from the leading digits that fit 64 bits (`Numeral.value`).
-/

namespace Chatflow

namespace Json

/-! ### Numbers -/

/-- A decimal numeral `significand · 10 ^ exponent` while its digits are read. -/
structure Numeral where
  /-- The digits that were kept. -/
  significand : Nat
  /-- The power of ten. -/
  exponent : Int

/-- Whether one more digit still fits 64 bits. -/
def Numeral.fits (n : Numeral) (digit : Nat) : Bool := n.significand * 10 + digit < UInt64.size

private def digitValue (c : Char) : Nat := c.toNat - '0'.toNat

/-- The digits before the point. Once one does not fit, it and those after it only count. -/
def Numeral.wholeDigits (n : Numeral) : Bool → List Char → Numeral
  | _, [] => n
  | full, c :: cs =>
    let d := digitValue c
    if full || !n.fits d then { n with exponent := n.exponent + 1 }.wholeDigits true cs
    else { n with significand := n.significand * 10 + d }.wholeDigits false cs

/-- The digits after the point. Those from the first that does not fit on are dropped. -/
def Numeral.fractionDigits (n : Numeral) : List Char → Numeral
  | [] => n
  | c :: cs =>
    let d := digitValue c
    if n.fits d then
      Numeral.fractionDigits ⟨n.significand * 10 + d, n.exponent - 1⟩ cs
    else n

/-- Scales by a power of ten, in steps of at most 308 places; `none` when it overflows. -/
def scale : Nat → Float → Int → Option Float
  | 0, x, _ => some x
  | fuel + 1, x, e =>
    if e.natAbs ≤ 308 then
      let power := Float.ofScientific 1 false e.natAbs
      if 0 ≤ e then
        let y := x * power
        if y.isInf then none else some y
      else some (x / power)
    else if x == 0 then some x
    else if 0 ≤ e then none
    else scale fuel (x / Float.ofScientific 1 false 308) (e + 308)

/-- The double that a numeral stands for. -/
def Numeral.value (n : Numeral) (negative : Bool) : Option Float :=
  (scale 8 n.significand.toUInt64.toFloat n.exponent).map fun x => if negative then -x else x

/-- The value of a numeral without point and exponent. -/
def Numeral.wholeValue (n : Numeral) (negative : Bool) : Option Json :=
  if n.exponent ≠ 0 then (n.value negative).map .real
  else if !negative then some (.int n.significand)
  else if 0 < n.significand && n.significand ≤ 9223372036854775808 then some (.int (-n.significand))
  else (n.value true).map .real

/-- The explicit exponent: its sign, its digits and the rest. -/
def readExponent (cs : List Char) : Option (Bool × List Char × List Char) :=
  let (negative, cs) := match cs with
    | '-' :: cs => (true, cs)
    | '+' :: cs => (false, cs)
    | cs => (false, cs)
  let digits := cs.takeWhile Char.isDigit
  if digits.isEmpty then none else some (negative, digits, cs.dropWhile Char.isDigit)

/-- The value of a numeral with an explicit exponent. An exponent beyond 31 bits leaves zero. -/
def Numeral.withExponent (n : Numeral) (negative : Bool) (down : Bool) (digits : List Char) :
    Option Float :=
  let e := digits.foldl (fun e c => e * 10 + digitValue c) 0
  if 2147483648 ≤ e then
    if n.significand ≠ 0 && !down then none
    else some (if negative then -0.0 else 0.0)
  else
    Numeral.value ⟨n.significand, if down then n.exponent - e else n.exponent + e⟩ negative

/-- Reads a number: `-` or nothing, digits without a leading zero, then a fraction, an exponent,
both or neither. -/
def readNumber (cs : List Char) : Option (Json × List Char) := do
  let (negative, cs) := match cs with
    | '-' :: cs => (true, cs)
    | cs => (false, cs)
  let whole := cs.takeWhile Char.isDigit
  let rest := cs.dropWhile Char.isDigit
  if whole.isEmpty || (whole.head? == some '0' && 1 < whole.length) then none
  let n := (Numeral.mk 0 0).wholeDigits false whole
  let (n, pointed, rest) ← match rest with
    | '.' :: cs =>
      let digits := cs.takeWhile Char.isDigit
      if digits.isEmpty then none
      else some (n.fractionDigits digits, true, cs.dropWhile Char.isDigit)
    | rest => some (n, false, rest)
  match rest with
  | c :: cs =>
    if c = 'e' || c = 'E' then
      let (down, digits, rest) ← readExponent cs
      return (.real (← n.withExponent negative down digits), rest)
    else if pointed then return (.real (← n.value negative), rest)
    else return (← n.wholeValue negative, rest)
  | [] =>
    if pointed then return (.real (← n.value negative), rest)
    else return (← n.wholeValue negative, rest)

/-! ### Strings -/

/-- The value of a hexadecimal digit. -/
def hexValue? (c : Char) : Option Nat :=
  if c.isDigit then some (c.toNat - '0'.toNat)
  else if 'a' ≤ c && c ≤ 'f' then some (c.toNat - 'a'.toNat + 10)
  else if 'A' ≤ c && c ≤ 'F' then some (c.toNat - 'A'.toNat + 10)
  else none

/-- Four hexadecimal digits. -/
def readHex4 : List Char → Option (Nat × List Char)
  | a :: b :: c :: d :: rest => do
    let n := (((← hexValue? a) * 16 + (← hexValue? b)) * 16 + (← hexValue? c)) * 16
    return (n + (← hexValue? d), rest)
  | _ => none

/-- The character of a `\u` escape, after the `u`: one unit, or a high and a low surrogate. -/
def readUnicodeEscape (cs : List Char) : Option (Char × List Char) := do
  let (n, rest) ← readHex4 cs
  if 0xD800 ≤ n && n < 0xDC00 then
    match rest with
    | '\\' :: 'u' :: rest =>
      let (low, rest) ← readHex4 rest
      if 0xDC00 ≤ low && low < 0xE000 then
        return (Char.ofNat (0x10000 + (n - 0xD800) * 0x400 + (low - 0xDC00)), rest)
      else none
    | _ => none
  else if 0xDC00 ≤ n && n < 0xE000 then none
  else return (Char.ofNat n, rest)

/-- The rest of a string after its opening quote. -/
def readString : Nat → List Char → List Char → Option (String × List Char)
  | 0, _, _ => none
  | fuel + 1, done, cs =>
    match cs with
    | [] => none
    | '"' :: rest => some (String.ofList done.reverse, rest)
    | '\\' :: 'u' :: rest =>
      match readUnicodeEscape rest with
      | some (c, rest) => readString fuel (c :: done) rest
      | none => none
    | '\\' :: c :: rest =>
      let plain : Option Char := match c with
        | '"' => some '"'
        | '\\' => some '\\'
        | '/' => some '/'
        | 'b' => some '\x08'
        | 'f' => some '\x0c'
        | 'n' => some '\n'
        | 'r' => some '\r'
        | 't' => some '\t'
        | _ => none
      match plain with
      | some c => readString fuel (c :: done) rest
      | none => none
    | c :: rest => if c.toNat < 32 then none else readString fuel (c :: done) rest

/-! ### Values -/

/-- Whether a character is a JSON blank. -/
def isBlank (c : Char) : Bool := c = ' ' || c = '\t' || c = '\n' || c = '\r'

/-- The text without the blanks in front. -/
def skipBlanks (cs : List Char) : List Char := cs.dropWhile isBlank

/-- The text after an expected word. -/
def expectWord (word : List Char) (cs : List Char) : Option (List Char) :=
  if word.isPrefixOf cs then some (cs.drop word.length) else none

mutual

/-- Reads a value, with at most `depth` containers open around its parts. -/
def readValue : (fuel depth : Nat) → List Char → Option (Json × List Char)
  | 0, _, _ => none
  | fuel + 1, depth, cs =>
    match skipBlanks cs with
    | [] => none
    | 'n' :: rest => (expectWord ['u', 'l', 'l'] rest).map (.null, ·)
    | 't' :: rest => (expectWord ['r', 'u', 'e'] rest).map (.bool true, ·)
    | 'f' :: rest => (expectWord ['a', 'l', 's', 'e'] rest).map (.bool false, ·)
    | '"' :: rest => (readString (rest.length + 1) [] rest).map fun (s, rest) => (.str s, rest)
    | '[' :: rest =>
      if depth ≤ 1 then none
      else match skipBlanks rest with
        | ']' :: rest => some (.arr [], rest)
        | rest => (readItems fuel (depth - 1) [] rest).map fun (vs, rest) => (.arr vs, rest)
    | '\x7b' :: rest =>
      if depth ≤ 1 then none
      else match skipBlanks rest with
        | '\x7d' :: rest => some (.obj [], rest)
        | rest =>
          (readFields fuel (depth - 1) .empty rest).map fun (d, rest) => (.ofDict d, rest)
    | cs => readNumber cs

/-- Reads the items of an array up to its closing bracket. -/
def readItems : (fuel depth : Nat) → List Json → List Char → Option (List Json × List Char)
  | 0, _, _, _ => none
  | fuel + 1, depth, done, cs =>
    match readValue fuel depth cs with
    | none => none
    | some (v, rest) =>
      match skipBlanks rest with
      | ',' :: rest => readItems fuel depth (v :: done) rest
      | ']' :: rest => some ((v :: done).reverse, rest)
      | _ => none

/-- Reads the fields of an object up to its closing brace. -/
def readFields : (fuel depth : Nat) → Dict Json → List Char → Option (Dict Json × List Char)
  | 0, _, _, _ => none
  | fuel + 1, depth, done, cs =>
    match skipBlanks cs with
    | '"' :: rest =>
      match readString (rest.length + 1) [] rest with
      | none => none
      | some (name, rest) =>
        match skipBlanks rest with
        | ':' :: rest =>
          match readValue fuel depth rest with
          | none => none
          | some (v, rest) =>
            match skipBlanks rest with
            | ',' :: rest => readFields fuel depth (done.insert name v) rest
            | '\x7d' :: rest => some (done.insert name v, rest)
            | _ => none
        | _ => none
    | _ => none

end

/-- Reads a text that holds one value. -/
def parse (text : String) : Option Json := do
  let cs := text.toList
  let (v, rest) ← readValue (2 * cs.length + 2) 128 cs
  if (skipBlanks rest).isEmpty then some v else none

end Json

end Chatflow
