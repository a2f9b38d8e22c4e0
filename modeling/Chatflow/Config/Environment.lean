import Chatflow.Config.Layer
import Chatflow.Decimal.Reader
import Chatflow.Text.Quoted
import Chatflow.Toml.Text

/-!
# Environment variables

The layer that environment variables make: a variable whose name begins with a mark gives the
option at the path in the rest of its name, in small letters and with two underscores for a point.
Its text is read as a truth value, a number, a quoted text, or a list or table of such values
(`EnvironmentValue.read`), and as it is when it cannot be.
-/

namespace Chatflow

namespace EnvironmentValue

/-- Whether a character is blank around values. -/
def isBlank (c : Char) : Bool := c = ' ' || c = '\t' || c = '\n' || c = '\x0c' || c = '\r'

/-- The characters behind the blanks in front. -/
def skipBlanks (cs : List Char) : List Char := cs.dropWhile isBlank

/-- Whether a character ends a bare value. -/
def isSeparator (c : Char) : Bool := c = ',' || c = '\x7b' || c = '\x7d' || c = '[' || c = ']'

/-- The characters without blanks at both ends. -/
def trim (cs : List Char) : List Char :=
  ((Text.trim (String.ofList cs))).toList

/-! ### Numbers -/

/-- A whole number, with a sign or without. -/
def whole? (cs : List Char) : Option Json :=
  let (negative, digits) := Decimal.splitSign cs
  if digits.isEmpty || !digits.all Char.isDigit then none
  else
    let n : Int := Decimal.natOfDigits digits
    if !negative && n < 18446744073709551616 then some (.int n)
    else if negative && n ≤ 9223372036854775808 then some (.int (-n))
    else none

/-- The words for what is not a finite number. -/
def special? (word : String) : Option Float :=
  match word with
  | "inf" | "infinity" => some (1 / 0)
  | "nan" => some (0 / 0)
  | _ => none

/-- The number behind the letter of an exponent, if there is one. -/
def exponent? : List Char → Option Int
  | [] => some 0
  | c :: rest =>
    let (down, digits) := Decimal.splitSign rest
    let n : Int := Decimal.natOfDigits digits
    if (c = 'e' || c = 'E') && !digits.isEmpty && digits.all Char.isDigit then
      some (if down then -n else n)
    else none

/-- A number with a point, an exponent, or none. -/
def real? (cs : List Char) : Option Json :=
  let (negative, cs) := Decimal.splitSign cs
  match special? (String.ofList (cs.map Char.toLower)) with
  | some x => some (.real (Decimal.signed negative x))
  | none =>
    let whole := cs.takeWhile Char.isDigit
    let rest := cs.drop whole.length
    let (fraction, rest) := match rest with
      | '.' :: rest => (rest.takeWhile Char.isDigit, rest.dropWhile Char.isDigit)
      | rest => ([], rest)
    if whole.isEmpty && fraction.isEmpty then none
    else (exponent? rest).map fun e => .real (Decimal.ofParts negative whole fraction e)

/-- A bare value: a number, or else a text. -/
def bare (cs : List Char) : Json :=
  ((whole? cs) <|> (real? cs)).getD (.str (String.ofList cs))

/-! ### Values -/

/-- The key of an entry of a table. -/
def readKey (cs : List Char) : Option (String × List Char) :=
  match cs with
  | '"' :: rest => Toml.readBasic (rest.length + 1) [] rest
  | cs =>
    let key := cs.takeWhile Toml.isBare
    if key.isEmpty then none else some (String.ofList key, cs.drop key.length)

mutual

/-- Reads a value and the blanks around it. -/
def readValue : (fuel : Nat) → List Char → Option (Json × List Char)
  | 0, _ => none
  | fuel + 1, cs =>
    let read : Option (Json × List Char) :=
      match skipBlanks cs with
      | 't' :: 'r' :: 'u' :: 'e' :: rest => some (.bool true, rest)
      | 'f' :: 'a' :: 'l' :: 's' :: 'e' :: rest => some (.bool false, rest)
      | '\x7b' :: rest => (readEntries fuel [] rest).map fun (d, rest) =>
        (.record d, rest)
      | '[' :: rest => (readItems fuel [] rest).map fun (vs, rest) => (.arr vs, rest)
      | '"' :: rest =>
        (Toml.readBasic (rest.length + 1) [] rest).map fun (s, rest) => (.str s, rest)
      | '\'' :: c :: '\'' :: rest => some (.str (String.singleton c), rest)
      | '\'' :: _ => none
      | cs =>
        let word := cs.takeWhile (!isSeparator ·)
        some (bare (trim word), cs.drop word.length)
    read.map fun (v, rest) => (v, skipBlanks rest)

/-- Reads the items of a list, up to its closing bracket. Where a bracket follows a blank there is
one more item, the empty text. -/
def readItems : (fuel : Nat) → (done : List Json) → List Char → Option (List Json × List Char)
  | 0, _, _ => none
  | fuel + 1, done, cs =>
    match cs with
    | ']' :: rest => some (done.reverse, rest)
    | cs =>
      match readValue fuel cs with
      | none => none
      | some (v, rest) =>
        match rest with
        | ',' :: rest => readItems fuel (v :: done) rest
        | ']' :: rest => some ((v :: done).reverse, rest)
        | _ => none

/-- Reads the entries of a table, up to its closing brace. -/
def readEntries : (fuel : Nat) → (done : List (String × Json)) → List Char →
    Option (List (String × Json) × List Char)
  | 0, _, _ => none
  | fuel + 1, done, cs =>
    match cs with
    | '\x7d' :: rest => some (done.reverse, rest)
    | cs =>
      match readKey (skipBlanks cs) with
      | none => none
      | some (key, rest) =>
        match skipBlanks rest with
        | '=' :: rest =>
          match readValue fuel rest with
          | none => none
          | some (v, rest) =>
            match rest with
            | ',' :: rest => readEntries fuel ((key, v) :: done) rest
            | '\x7d' :: rest => some (((key, v) :: done).reverse, rest)
            | _ => none
        | _ => none

end

/-- The value of a text. -/
def read (text : String) : Json :=
  let cs := text.toList
  match readValue (2 * cs.length + 2) cs with
  | some (v, []) => v
  | _ => .str text

end EnvironmentValue

namespace Environment

/-- The mark in front of the names of variables, which may be in any case. -/
def mark : String := "HEXABOT_"

/-- A text with a point for every two underscores, in small letters. -/
def pathOf : List Char → List Char
  | '_' :: '_' :: rest => '.' :: pathOf rest
  | c :: rest => c.toLower :: pathOf rest
  | [] => []

/-- The path of the option that a variable gives, if its name begins with the mark. A path with an
empty part gives none. -/
def path? (name : String) : Option String :=
  let cs := name.toList
  let path := String.ofList (pathOf (cs.drop mark.length))
  if (cs.take mark.length).map Char.toUpper = mark.toList &&
      (path.splitToList (· = '.')).all (· ≠ "") then some path
  else none

/-- The layer of a variable. -/
def layerOf? (name value : String) : Option Json :=
  (path? name).bind fun path => Layer.atPath path (EnvironmentValue.read value)

/-- The layer of all variables, in the order of their names. -/
def layer (vars : Dict String) : Json :=
  Layer.pile (vars.entries.filterMap fun v => layerOf? v.1 v.2)

end Environment

end Chatflow
