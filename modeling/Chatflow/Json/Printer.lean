import Chatflow.Decimal.Layout
import Chatflow.Json.Basic

/-!
# Compact JSON text

`Json.compact` writes a value without blanks: fields in the order they are kept, characters
beyond ASCII as they are, doubles with the fewest digits that read back.
-/

namespace Chatflow

namespace Json

private def hexDigit (n : Nat) : Char :=
  if n < 10 then Char.ofNat ('0'.toNat + n) else Char.ofNat ('a'.toNat + (n - 10))

/-- The text of one character inside a string: quotes, backslashes and control characters are
escaped, five of the latter by a letter and the rest by four hexadecimal digits. -/
def escapeChar (c : Char) : List Char :=
  match c with
  | '"' => ['\\', '"']
  | '\\' => ['\\', '\\']
  | '\x08' => ['\\', 'b']
  | '\x0c' => ['\\', 'f']
  | '\n' => ['\\', 'n']
  | '\r' => ['\\', 'r']
  | '\t' => ['\\', 't']
  | c =>
    if c.toNat < 32 then
      ['\\', 'u', '0', '0', hexDigit (c.toNat / 16), hexDigit (c.toNat % 16)]
    else [c]

/-- The text of a string, in quotes. -/
def quote (s : String) : String :=
  "\"" ++ String.ofList (s.toList.flatMap escapeChar) ++ "\""

mutual

/-- The text of a value, without blanks. -/
def compact : Json → String
  | .null => "null"
  | .bool true => "true"
  | .bool false => "false"
  | .int n => toString n
  | .real x => Decimal.Layout.json.writeFloat x
  | .str s => quote s
  | .arr items => "[" ++ compactItems items ++ "]"
  | .obj fields => "\x7b" ++ compactFields fields ++ "\x7d"

/-- The texts of values, with commas between them. -/
def compactItems : List Json → String
  | [] => ""
  | [v] => compact v
  | v :: rest => compact v ++ "," ++ compactItems rest

/-- The texts of fields, with commas between them. -/
def compactFields : List (String × Json) → String
  | [] => ""
  | [(name, v)] => quote name ++ ":" ++ compact v
  | (name, v) :: rest => quote name ++ ":" ++ compact v ++ "," ++ compactFields rest

end

/-- A value put into running text: a string as it is, any other value as compact JSON. -/
def display : Json → String
  | .str s => s
  | v => compact v

end Json

end Chatflow
