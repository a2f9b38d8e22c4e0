import Chatflow.Toml.Scalar
import Chatflow.Toml.Table

/-!
# TOML documents

`Toml.parse` reads a document as the JSON object of its keys. Arrays and inline tables nest fewer
than 80 deep.
-/

namespace Chatflow

namespace Toml

/-! ### Values -/

/-- The characters behind blanks, comments and ends of lines. -/
def skipAll (cs : List Char) : List Char := skipLines cs.length cs

mutual

/-- Reads a value. -/
def readValue : (fuel depth : Nat) → Reader Json
  | 0, _, _ => none
  | fuel + 1, depth, cs =>
    match cs with
    | '"' :: _ | '\'' :: _ => (readString cs).map fun (s, rest) => (.str s, rest)
    | '[' :: rest =>
      if depth = 0 then none
      else (readItems fuel (depth - 1) [] (skipAll rest)).map fun (vs, rest) => (.arr vs, rest)
    | '\x7b' :: rest =>
      if depth = 0 then none
      else match skipBlanks rest with
        | '\x7d' :: rest => some (.obj [], rest)
        | rest => (readPairs fuel (depth - 1) [] rest).map fun (fields, rest) =>
          (.obj (fieldValues fields), rest)
    | cs => readScalar? cs

/-- Reads the items of an array, up to its closing bracket. -/
def readItems : (fuel depth : Nat) → (done : List Json) → Reader (List Json)
  | 0, _, _, _ => none
  | fuel + 1, depth, done, cs =>
    match cs with
    | ']' :: rest => some (done.reverse, rest)
    | cs =>
      match readValue fuel depth cs with
      | none => none
      | some (v, rest) =>
        match skipAll rest with
        | ',' :: rest => readItems fuel depth (v :: done) (skipAll rest)
        | ']' :: rest => some ((v :: done).reverse, rest)
        | _ => none

/-- Reads the pairs of an inline table, up to its closing brace. -/
def readPairs : (fuel depth : Nat) → (done : Fields) → Reader Fields
  | 0, _, _, _ => none
  | fuel + 1, depth, done, cs =>
    match readKey (cs.length + 1) cs with
    | none => none
    | some (key, rest) =>
      match rest with
      | '=' :: rest =>
        match readValue fuel depth (skipBlanks rest) with
        | none => none
        | some (v, rest) =>
          match done.assign (key.getLast?.getD "") v key.dropLast with
          | none => none
          | some done =>
            match skipBlanks rest with
            | ',' :: rest => readPairs fuel depth done rest
            | '\x7d' :: rest => some (done, rest)
            | _ => none
      | _ => none

end

/-! ### Lines -/

/-- A document while it is read. -/
structure Draft where
  /-- What the document holds so far. -/
  root : Fields
  /-- The path of the last header. -/
  path : List String

/-- Reads a header between brackets. -/
def readHeader (closing : List Char) (cs : List Char) : Option (List String × List Char) := do
  let (key, rest) ← readKey (cs.length + 1) cs
  if closing.isPrefixOf rest then return (key, rest.drop closing.length) else none

/-- Reads a key and its value. -/
def readPair (cs : List Char) : Option ((List String × Json) × List Char) := do
  let (key, rest) ← readKey (cs.length + 1) cs
  let rest ← expect '=' rest
  let (v, rest) ← readValue (2 * cs.length + 2) 80 (skipBlanks rest)
  return ((key, v), rest)

/-- Takes in the header or the key in front. -/
def Draft.statement (d : Draft) (cs : List Char) : Option (Draft × List Char) :=
  match cs with
  | '[' :: '[' :: rest => do
    let (key, rest) ← readHeader [']', ']'] rest
    let root ← d.root.under (Fields.addTable (key.getLast?.getD "")) key.dropLast
    return (⟨root, key⟩, rest)
  | '[' :: rest => do
    let (key, rest) ← readHeader [']'] rest
    let root ← d.root.under (Fields.openTable (key.getLast?.getD "")) key.dropLast
    return (⟨root, key⟩, rest)
  | cs => do
    let ((key, v), rest) ← readPair cs
    let root ← d.root.under (Fields.assign (key.getLast?.getD "") v key.dropLast) d.path
    return ({ d with root := root }, rest)

/-- Reads the lines of a document. -/
def Draft.lines (d : Draft) : (fuel : Nat) → List Char → Option Draft
  | 0, _ => none
  | fuel + 1, cs =>
    match skipAll cs with
    | [] => some d
    | cs =>
      match d.statement cs with
      | none => none
      | some (d, rest) =>
        match skipComment (skipBlanks rest) with
        | [] => some d
        | rest =>
          match afterNewline rest with
          | some rest => d.lines fuel rest
          | none => none

/-- Reads a document. -/
def parse (text : String) : Option Json :=
  let cs := text.toList
  let cs := if cs.head? = some '\ufeff' then cs.tail else cs
  (Draft.lines ⟨[], []⟩ (cs.length + 1) cs).map fun d => .obj (fieldValues d.root)

end Toml

end Chatflow
