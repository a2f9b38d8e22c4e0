import Chatflow.Regex.Syntax
import Chatflow.Text.Quoted

/-!
# Reading regular expressions

`Regex.parse?` reads a regular expression, or refuses it. What is refused: unbalanced groups and
classes, repetitions of nothing, counts that are missing or out of order, unknown escapes and
flags, references back, looks around, and nesting beyond 250.

The reader keeps the rest of the text, whether blanks are skipped, and the captures so far; each
of its steps takes fuel bounded by the length of the text.
-/

namespace Chatflow

namespace Regex

/-- Where the reader stands. -/
structure Reader where
  /-- The text not read yet. -/
  rest : List Char
  /-- Whether blanks and comments are skipped. -/
  skipping : Bool
  /-- The number of captures opened so far. -/
  captures : Nat
  /-- The names of captures so far. -/
  names : List String

/-- A step of the reader. -/
abbrev Read := StateT Reader Option

namespace Read

/-- The next character. -/
def peek : Read (Option Char) := return (← get).rest.head?

/-- The character after the next. -/
def peekSecond : Read (Option Char) := return ((← get).rest.drop 1).head?

/-- Goes on by one character. -/
def advance : Read Unit := modify fun r => { r with rest := r.rest.drop 1 }

/-- Goes on past a text if it stands next. -/
def accept (word : String) : Read Bool := do
  let r ← get
  if word.toList.isPrefixOf r.rest then
    set { r with rest := r.rest.drop word.length }
    return true
  else return false

/-- The text after blanks and comments. -/
def dropSpace : Nat → List Char → List Char
  | 0, cs => cs
  | fuel + 1, cs =>
    match cs with
    | [] => []
    | c :: rest =>
      if Text.isBlank c then dropSpace fuel rest
      else if c = '#' then dropSpace fuel ((rest.dropWhile (· ≠ '\n')).drop 1)
      else cs

/-- Skips blanks and comments where they are skipped. -/
def space : Read Unit := modify fun r =>
  if r.skipping then { r with rest := dropSpace r.rest.length r.rest } else r

/-- Goes on by one character and past the blanks after it. -/
def advanceSpace : Read Unit := do
  advance
  space

/-- The next character, which must be there. -/
def next : Read Char := do
  match ← peek with
  | some c => return c
  | none => failure

end Read

open Read

/-! ### Escapes -/

/-- A single element: what an escape or a plain character stands for. -/
inductive Primitive where
  | literal (c : Char) (byte : Bool)
  | anchor (a : Anchor)
  | short (kind : ShortClass) (negated : Bool)
  | property (query : PropertyQuery) (negated : Bool)
  | dot

/-- The value of a hexadecimal digit in either case. -/
def hexValue? (c : Char) : Option Nat := Unicode.hexDigitValue? c.toLower

/-- The character of a number, when there is one. -/
def charOfNat? (n : Nat) : Option Char :=
  if n.isValidChar then some (Char.ofNat n) else none

/-- Hexadecimal digits of a fixed number. -/
def readHexDigits : Nat → Nat → Read Nat
  | 0, n => return n
  | count + 1, n => do
    match hexValue? (← next) with
    | some d =>
      advanceSpace
      readHexDigits count (n * 16 + d)
    | none => failure

/-- Hexadecimal digits up to a closing brace. -/
def readHexBraced : Nat → Option Nat → Read Nat
  | 0, _ => failure
  | fuel + 1, n => do
    let c ← next
    if c = '\x7d' then
      advanceSpace
      match n with
      | some n => return n
      | none => failure
    else
      match hexValue? c with
      | some d =>
        advanceSpace
        readHexBraced fuel (some (n.getD 0 * 16 + d))
      | none => failure

/-- A character by its hexadecimal number, after the letter that announces it. -/
def readHexEscape (digits : Nat) : Read Primitive := do
  let braced := (← next) = '\x7b'
  let n ← if braced then
      advanceSpace
      readHexBraced (← get).rest.length none
    else readHexDigits digits 0
  match charOfNat? n with
  | some c => return .literal c (!braced && digits = 2)
  | none => failure

/-- Splits the text of a property at an operator. -/
def splitQuery (op : List Char) : List Char → List Char → Option (List Char × List Char)
  | _, [] => none
  | before, c :: cs =>
    if op.isPrefixOf (c :: cs) then some (before.reverse, (c :: cs).drop op.length)
    else splitQuery op (c :: before) cs

/-- The property that a text in braces asks for, and whether the operator negates it. -/
def queryOf (text : List Char) : PropertyQuery × Bool :=
  match splitQuery ['!', '='] [] text with
  | some (name, value) => (.value (String.ofList name) (String.ofList value), true)
  | none =>
    match splitQuery [':'] [] text with
    | some (name, value) => (.value (String.ofList name) (String.ofList value), false)
    | none =>
      match splitQuery ['='] [] text with
      | some (name, value) => (.value (String.ofList name) (String.ofList value), false)
      | none => (.name (String.ofList text), false)

/-- The characters up to a closing brace. -/
def readBraced : Nat → List Char → Read (List Char)
  | 0, _ => failure
  | fuel + 1, done => do
    let c ← next
    if c = '\x7d' then
      advance
      return done.reverse
    else
      advanceSpace
      readBraced fuel (c :: done)

/-- A property, after the letter that announces it. -/
def readProperty (negated : Bool) : Read Primitive := do
  let c ← next
  if c = '\x7b' then
    advanceSpace
    let (query, inverse) := queryOf (← readBraced (← get).rest.length [])
    return .property query (negated != inverse)
  else if c = '\\' then failure
  else
    advance
    return .property (.name c.toString) negated

/-- The name of a kind of word boundary in braces; anything else in braces is left to be read as
a count. -/
def readBoundary : Read Anchor := do
  let r ← get
  if r.rest.head? ≠ some '\x7b' then return .wordBoundary
  advanceSpace
  let isPart (c : Char) : Bool := c.isAlpha || c = '-'
  match ← peek with
  | none => failure
  | some c =>
    if !isPart c then
      set r
      return .wordBoundary
    else
      let text := (← get).rest
      let name := String.ofList (text.takeWhile isPart)
      match text.dropWhile isPart with
      | '\x7d' :: rest =>
        modify fun r => { r with rest := rest }
        match name with
        | "start" => return .wordStart
        | "end" => return .wordEnd
        | "start-half" => return .wordStartHalf
        | "end-half" => return .wordEndHalf
        | _ => failure
      | _ => failure

/-- What stands after a backslash. -/
def readEscape : Read Primitive := do
  advance
  let c ← next
  match c with
  | 'x' => advanceSpace; readHexEscape 2
  | 'u' => advanceSpace; readHexEscape 4
  | 'U' => advanceSpace; readHexEscape 8
  | 'p' => advanceSpace; readProperty false
  | 'P' => advanceSpace; readProperty true
  | 'd' => advance; return .short .digit false
  | 'D' => advance; return .short .digit true
  | 's' => advance; return .short .space false
  | 'S' => advance; return .short .space true
  | 'w' => advance; return .short .word false
  | 'W' => advance; return .short .word true
  | 'a' => advance; return .literal '\x07' false
  | 'f' => advance; return .literal '\x0c' false
  | 't' => advance; return .literal '\t' false
  | 'n' => advance; return .literal '\n' false
  | 'r' => advance; return .literal '\r' false
  | 'v' => advance; return .literal '\x0b' false
  | 'A' => advance; return .anchor .startText
  | 'z' => advance; return .anchor .endText
  | 'b' => advance; return .anchor (← readBoundary)
  | 'B' => advance; return .anchor .notWordBoundary
  | '<' => advance; return .anchor .wordStart
  | '>' => advance; return .anchor .wordEnd
  | c =>
    if c.toNat < 128 && !c.isAlphanum then
      advance
      return .literal c false
    else failure

/-- A character that stands for itself, a dot, an anchor or an escape. -/
def readPrimitive : Read Primitive := do
  match ← next with
  | '\\' => readEscape
  | '.' => advance; return .dot
  | '^' => advance; return .anchor .startLine
  | '$' => advance; return .anchor .endLine
  | c => advance; return .literal c false

/-- The expression of a primitive. -/
def Primitive.toAst : Primitive → Ast
  | .literal c byte => .literal c byte
  | .anchor a => .anchor a
  | .short kind negated => .short kind negated
  | .property query negated => .property query negated
  | .dot => .dot

/-! ### Classes -/

/-- The names of the ASCII classes. -/
def asciiNames : List String :=
  ["alnum", "alpha", "ascii", "blank", "cntrl", "digit", "graph", "lower", "print", "punct",
    "space", "upper", "word", "xdigit"]

/-- A named ASCII class, if one stands next. -/
def readAsciiClass? : Read (Option ClassAst) := do
  let r ← get
  match r.rest with
  | '[' :: ':' :: cs =>
    let (negated, cs) := match cs with
      | '^' :: cs => (true, cs)
      | cs => (false, cs)
    let name := String.ofList (cs.takeWhile (· ≠ ':'))
    match cs.dropWhile (· ≠ ':') with
    | ':' :: ']' :: rest =>
      if asciiNames.contains name then
        set { r with rest := rest }
        return some (.ascii name negated)
      else return none
    | _ => return none
  | _ => return none

/-- An element between brackets: an escape or a character. -/
def readClassPrimitive : Read Primitive := do
  match ← next with
  | '\\' => readEscape
  | c => advance; return .literal c false

/-- An element between brackets as part of a class. -/
def Primitive.toClass : Primitive → Read ClassAst
  | .literal c byte => return .literal c byte
  | .short kind negated => return .short kind negated
  | .property query negated => return .property query negated
  | .anchor _ => failure
  | .dot => failure

/-- The next character after blanks, without going on. -/
def peekAfterSpace : Read (Option Char) := do
  let r ← get
  let rest := r.rest.drop 1
  return (if r.skipping then dropSpace rest.length rest else rest).head?

/-- A character, a class or a range between brackets. -/
def readClassRange : Read ClassAst := do
  let first ← readClassPrimitive
  space
  let c ← next
  let after ← peekAfterSpace
  if c ≠ '-' || after = some ']' || after = some '-' then first.toClass
  else
    advanceSpace
    let second ← readClassPrimitive
    match first, second with
    | .literal low byteLow, .literal high byteHigh =>
      if low ≤ high then return .range low high (byteLow || byteHigh) else failure
    | _, _ => failure

/-- Joins the elements of a class. -/
def joinClass (items : List ClassAst) : ClassAst :=
  match items with
  | [a] => a
  | items => .union items.reverse

/-- The class so far, with the operation that waits for its right side applied. -/
def applyPending (pending : Option (SetOp × ClassAst)) (items : List ClassAst) : ClassAst :=
  match pending with
  | some (op, left) => .op op left (joinClass items)
  | none => joinClass items

/-- Hyphens at the start of a class, which stand for themselves. -/
def readHyphens : Nat → List ClassAst → Read (List ClassAst)
  | 0, items => return items
  | fuel + 1, items => do
    if (← next) = '-' then
      advanceSpace
      readHyphens fuel (.literal '-' false :: items)
    else return items

/-- The start of a class after its bracket: whether it is negated, and the characters that stand
for themselves only there. -/
def readClassStart : Read (Bool × List ClassAst) := do
  advanceSpace
  let negated := (← next) = '^'
  if negated then advanceSpace
  let items ← readHyphens (← get).rest.length []
  if items.isEmpty && (← next) = ']' then
    advanceSpace
    return (negated, [.literal ']' false])
  else return (negated, items)

/-- The rest of a class up to its closing bracket. -/
def readClass : Nat → Bool → Option (SetOp × ClassAst) → List ClassAst → Read (Bool × ClassAst)
  | 0, _, _, _ => failure
  | fuel + 1, negated, pending, items => do
    space
    let c ← next
    let second ← peekSecond
    let continueWith (op : SetOp) : Read (Bool × ClassAst) := do
      advance
      advance
      readClass fuel negated (some (op, applyPending pending items)) []
    if c = '[' then
      match ← readAsciiClass? with
      | some item => readClass fuel negated pending (item :: items)
      | none =>
        let (innerNegated, innerItems) ← readClassStart
        let (innerNegated, inner) ← readClass fuel innerNegated none innerItems
        readClass fuel negated pending (.bracketed innerNegated inner :: items)
    else if c = ']' then
      advance
      return (negated, applyPending pending items)
    else if c = '&' && second = some '&' then continueWith .inter
    else if c = '-' && second = some '-' then continueWith .difference
    else if c = '~' && second = some '~' then continueWith .symmDifference
    else
      let item ← readClassRange
      readClass fuel negated pending (item :: items)

/-! ### Groups -/

/-- The flag of a letter. -/
def flagOf? : Char → Option Flag
  | 'i' => some .caseInsensitive
  | 'm' => some .multiLine
  | 's' => some .dotMatchesNewline
  | 'U' => some .swapGreed
  | 'u' => some .unicode
  | 'R' => some .crlf
  | 'x' => some .ignoreWhitespace
  | _ => none

/-- Flags up to a colon or a closing parenthesis: each at most once, at most one hyphen, which
does not stand last. -/
def readFlags : Nat → Bool → FlagChange → Read FlagChange
  | 0, _, _ => failure
  | fuel + 1, on, done => do
    let c ← next
    if c = ':' || c = ')' then
      if !on && done.all (·.2) then failure else return done.reverse
    else if c = '-' then
      if !on then failure
      advance
      readFlags fuel false done
    else
      match flagOf? c with
      | some flag =>
        if done.any (·.1 = flag) then failure
        advance
        readFlags fuel on ((flag, on) :: done)
      | none => failure

/-- The letters and digits of all scripts. -/
def letters : Unicode.CodeSet := .ofStretches Unicode.Property.alphabetic

/-- The numbers of all scripts. -/
def numbers : Unicode.CodeSet := Unicode.Category.ofLetters ["Nd", "Nl", "No"]

/-- Whether a character may stand in the name of a capture. -/
def isNameChar (first : Bool) (c : Char) : Bool :=
  if first then c = '_' || letters.contains c.toNat
  else c = '_' || c = '.' || c = '[' || c = ']' || letters.contains c.toNat ||
    numbers.contains c.toNat

/-- The name of a capture up to its closing bracket; no name is used twice. -/
def readName : Nat → List Char → Read String
  | 0, _ => failure
  | fuel + 1, done => do
    let c ← next
    if c = '>' then
      advance
      let name := String.ofList done.reverse
      if done.isEmpty || (← get).names.contains name then failure
      return name
    else if isNameChar done.isEmpty c then
      advance
      readName fuel (c :: done)
    else failure

/-- What a group starts with, after its parenthesis. -/
inductive GroupStart where
  | capture (index : Nat)
  | nonCapturing (change : FlagChange)
  /-- Flags for the rest of the group around it. -/
  | flags (change : FlagChange)

/-- The number of the next capture. -/
def newCapture : Read Nat := do
  let r ← get
  set { r with captures := r.captures + 1 }
  return r.captures + 1

/-- Reads the start of a group. -/
def readGroupStart : Read GroupStart := do
  advance
  space
  if (← accept "?=") || (← accept "?!") || (← accept "?<=") || (← accept "?<!") then failure
  let fuel := (← get).rest.length + 1
  if (← accept "?P<") || (← accept "?<") then
    let index ← newCapture
    let name ← readName fuel []
    modify fun r => { r with names := name :: r.names }
    return .capture index
  else if ← accept "?" then
    let change ← readFlags fuel true []
    let c ← next
    advance
    if c = ')' then
      if change.isEmpty then failure else return .flags change
    else return .nonCapturing change
  else return .capture (← newCapture)

/-! ### Repetitions -/

/-- Goes past blanks of any kind. -/
def skipBlanks : Read Unit := modify fun r => { r with rest := r.rest.dropWhile Text.isBlank }

/-- The digits of a count. -/
def readDigits : Nat → List Char → Read (List Char)
  | 0, done => return done.reverse
  | fuel + 1, done => do
    match ← peek with
    | some c =>
      if c.isDigit then
        advanceSpace
        readDigits fuel (c :: done)
      else return done.reverse
    | none => return done.reverse

/-- A count of at most 32 bits, with blanks around it. -/
def readCount : Read Nat := do
  skipBlanks
  let digits ← readDigits (← get).rest.length []
  skipBlanks
  let n := digits.foldl (fun n c => n * 10 + (c.toNat - '0'.toNat)) 0
  if digits.isEmpty || UInt32.size ≤ n then failure else return n

/-- The bounds between braces, after the opening one. -/
def readBounds : Read (Nat × Option Nat) := do
  advanceSpace
  let low ← readCount
  let c ← next
  let high ← if c = ',' then
      advanceSpace
      if (← next) = '\x7d' then pure none else pure (some (← readCount))
    else pure (some low)
  if (← next) ≠ '\x7d' then failure
  advanceSpace
  match high with
  | some high => if low ≤ high then return (low, some high) else failure
  | none => return (low, none)

/-- Whether a repetition takes as much as it can: it does unless a question mark follows. -/
def readGreedy : Read Bool := do
  if (← peek) = some '?' then
    advance
    return false
  else return true

/-- Repeats the last part. -/
def repeatLast (min : Nat) (max : Option Nat) (greedy : Bool) : List Ast → Read (List Ast)
  | [] => failure
  | .empty :: _ => failure
  | .flags _ :: _ => failure
  | a :: rest => return .repetition min max greedy a :: rest

/-! ### Expressions -/

/-- Parts that follow each other, given from last to first. -/
def joinParts (parts : List Ast) : Ast :=
  match parts with
  | [] => .empty
  | [a] => a
  | parts => .concat parts.reverse

/-- Branches, the last one in parts and the others from last to first. -/
def joinBranches (branches : List Ast) (parts : List Ast) : Ast :=
  match branches with
  | [] => joinParts parts
  | branches => .alternation (joinParts parts :: branches).reverse

/-- Reads an expression up to the end or a closing parenthesis. -/
def readExpr : Nat → List Ast → List Ast → Read Ast
  | 0, _, _ => failure
  | fuel + 1, branches, parts => do
    space
    match ← peek with
    | none => return joinBranches branches parts
    | some ')' => return joinBranches branches parts
    | some '|' =>
      advance
      readExpr fuel (joinParts parts :: branches) []
    | some '(' =>
      let outer := (← get).skipping
      match ← readGroupStart with
      | .flags change =>
        match change.find? (·.1 = .ignoreWhitespace) with
        | some (_, on) => modify fun r => { r with skipping := on }
        | none => pure ()
        readExpr fuel branches (.flags change :: parts)
      | .capture index =>
        let sub ← readExpr fuel [] []
        closeGroup outer
        readExpr fuel branches (.group (some index) [] sub :: parts)
      | .nonCapturing change =>
        match change.find? (·.1 = .ignoreWhitespace) with
        | some (_, on) => modify fun r => { r with skipping := on }
        | none => pure ()
        let sub ← readExpr fuel [] []
        closeGroup outer
        readExpr fuel branches (.group none change sub :: parts)
    | some '[' =>
      let (negated, items) ← readClassStart
      let (negated, inner) ← readClass fuel negated none items
      readExpr fuel branches (.bracketed negated inner :: parts)
    | some '?' =>
      advance
      readExpr fuel branches (← repeatLast 0 (some 1) (← readGreedy) parts)
    | some '*' =>
      advance
      readExpr fuel branches (← repeatLast 0 none (← readGreedy) parts)
    | some '+' =>
      advance
      readExpr fuel branches (← repeatLast 1 none (← readGreedy) parts)
    | some '\x7b' =>
      let (low, high) ← readBounds
      readExpr fuel branches (← repeatLast low high (← readGreedy) parts)
    | some _ =>
      let p ← readPrimitive
      readExpr fuel branches (p.toAst :: parts)
where
  /-- Goes past a closing parenthesis and skips blanks as before the group. -/
  closeGroup (outer : Bool) : Read Unit := do
    if (← next) ≠ ')' then failure
    advance
    modify fun r => { r with skipping := outer }

/-- The deepest nesting that is read. -/
def nestLimit : Nat := 250

/-- Reads a regular expression. -/
def parse? (source : String) : Option Ast := do
  let cs := source.toList
  let (ast, r) ← (readExpr (2 * cs.length + 2) [] []).run ⟨cs, false, 0, []⟩
  if r.rest.isEmpty && ast.depth ≤ nestLimit then some ast else none

end Regex

end Chatflow
