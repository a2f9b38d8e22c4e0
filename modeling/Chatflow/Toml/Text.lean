import Chatflow.Json.Parser

/-!
# TOML texts

Strings, comments and keys of the TOML format. A reader gives what it read and the characters
behind it, or fails.
-/

namespace Chatflow

namespace Toml

/-- Reads something off the front of some characters. -/
abbrev Reader (α : Type) := List Char → Option (α × List Char)

/-! ### Characters -/

/-- Whether a character may stand in a comment or between quotes: no control but the tab. -/
def isPlain (c : Char) : Bool := c = '\t' || (0x20 ≤ c.toNat && c.toNat ≠ 0x7F)

/-- Whether a character is blank within a line. -/
def isBlank (c : Char) : Bool := c = ' ' || c = '\t'

/-- The characters behind the blanks in front. -/
def skipBlanks (cs : List Char) : List Char := cs.dropWhile isBlank

/-- The characters behind an end of line. -/
def afterNewline : List Char → Option (List Char)
  | '\n' :: rest => some rest
  | '\r' :: '\n' :: rest => some rest
  | _ => none

/-- The characters behind a comment, if one is in front. -/
def skipComment : List Char → List Char
  | '#' :: rest => rest.dropWhile isPlain
  | cs => cs

/-- The characters behind blanks, comments and ends of lines. -/
def skipLines : (fuel : Nat) → List Char → List Char
  | 0, cs => cs
  | fuel + 1, cs =>
    let cs := skipComment (skipBlanks cs)
    match afterNewline cs with
    | some rest => skipLines fuel rest
    | none => cs

/-- The characters behind blanks and ends of lines, without comments. -/
def skipSpace : (fuel : Nat) → List Char → List Char
  | 0, cs => cs
  | fuel + 1, cs =>
    let cs := skipBlanks cs
    match afterNewline cs with
    | some rest => skipSpace fuel rest
    | none => cs

/-! ### Strings -/

/-- A character given by some hexadecimal digits. -/
def readScalar (digits : Nat) (cs : List Char) : Option (Char × List Char) := do
  let hex := cs.take digits
  if hex.length < digits then none
  let n ← hex.foldlM (fun n c => (Json.hexValue? c).map (n * 16 + ·)) 0
  if h : n.isValidChar then return (Char.ofNatAux n h, cs.drop digits) else none

/-- The character of an escape, after the backslash. -/
def readEscape : Reader Char
  | 'b' :: rest => some ('\x08', rest)
  | 't' :: rest => some ('\t', rest)
  | 'n' :: rest => some ('\n', rest)
  | 'f' :: rest => some ('\x0c', rest)
  | 'r' :: rest => some ('\r', rest)
  | '"' :: rest => some ('"', rest)
  | '\\' :: rest => some ('\\', rest)
  | 'u' :: rest => readScalar 4 rest
  | 'U' :: rest => readScalar 8 rest
  | _ => none

/-- The rest of a basic string, after its opening quote. -/
def readBasic : (fuel : Nat) → (done : List Char) → Reader String
  | 0, _, _ => none
  | fuel + 1, done, cs =>
    match cs with
    | '"' :: rest => some (String.ofList done.reverse, rest)
    | '\\' :: rest =>
      match readEscape rest with
      | some (c, rest) => readBasic fuel (c :: done) rest
      | none => none
    | c :: rest => if isPlain c then readBasic fuel (c :: done) rest else none
    | [] => none

/-- The rest of a literal string, after its opening quote. -/
def readLiteral (cs : List Char) : Option (String × List Char) :=
  let body := cs.takeWhile fun c => isPlain c && c ≠ '\''
  match cs.drop body.length with
  | '\'' :: rest => some (String.ofList body, rest)
  | _ => none

/-- The end of a string of several lines: three quotes, and at most two more, which belong to the
string. -/
def closing (quote : Char) (cs : List Char) : Option (List Char × List Char) :=
  let quotes := min (cs.takeWhile (· = quote)).length 5
  if 3 ≤ quotes then some (List.replicate (quotes - 3) quote, cs.drop quotes) else none

/-- The rest of a string of several lines, after its opening quotes. Where escapes are read, a
backslash at the end of a line takes away all blanks behind it. -/
def readLong (quote : Char) (escapes : Bool) : (fuel : Nat) → (done : List Char) → Reader String
  | 0, _, _ => none
  | fuel + 1, done, cs =>
    match closing quote cs with
    | some (extra, rest) => some (String.ofList (done.reverse ++ extra), rest)
    | none =>
      match afterNewline cs with
      | some rest => readLong quote escapes fuel ('\n' :: done) rest
      | none =>
        match cs with
        | [] => none
        | c :: rest =>
          if escapes && c = '\\' then
            match afterNewline (skipBlanks rest) with
            | some next => readLong quote escapes fuel done (skipSpace next.length next)
            | none =>
              match readEscape rest with
              | some (c, rest) => readLong quote escapes fuel (c :: done) rest
              | none => none
          else if isPlain c then readLong quote escapes fuel (c :: done) rest
          else none

/-- A string of several lines without the end of line right behind its opening quotes. -/
def afterOpening (cs : List Char) : List Char := (afterNewline cs).getD cs

/-- Reads a string in one line. -/
def readShortString : Reader String
  | '"' :: rest => readBasic (rest.length + 1) [] rest
  | '\'' :: rest => readLiteral rest
  | _ => none

/-- Reads a string. -/
def readString : Reader String
  | '"' :: '"' :: '"' :: rest => readLong '"' true (rest.length + 1) [] (afterOpening rest)
  | '\'' :: '\'' :: '\'' :: rest => readLong '\'' false (rest.length + 1) [] (afterOpening rest)
  | cs => readShortString cs

/-! ### Keys -/

/-- Whether a character may stand in a bare key. -/
def isBare (c : Char) : Bool := c.isAlphanum || c = '_' || c = '-'

/-- Reads one part of a key. -/
def readKeyPart (cs : List Char) : Option (String × List Char) :=
  match cs with
  | '"' :: _ | '\'' :: _ => readShortString cs
  | _ =>
    let name := cs.takeWhile isBare
    if name.isEmpty then none else some (String.ofList name, cs.drop name.length)

/-- Reads a key: parts with points between them. -/
def readKey : (fuel : Nat) → Reader (List String)
  | 0, _ => none
  | fuel + 1, cs =>
    match readKeyPart (skipBlanks cs) with
    | none => none
    | some (part, rest) =>
      match skipBlanks rest with
      | '.' :: rest => (readKey fuel rest).map fun (parts, rest) => (part :: parts, rest)
      | rest => some ([part], rest)

end Toml

end Chatflow
