import Chatflow.Regex.Syntax
import Chatflow.Text.Quoted
import Chatflow.Unicode.Age
import Chatflow.Unicode.Case
import Chatflow.Unicode.Script

/-!
# Regular expressions with their flags applied

`Expr` is what is matched: sets of characters, places, repetitions and captures. `Ast.toExpr?`
applies the flags, which hold from where they are set to the end of the group around them, and
refuses names of properties that do not exist and sets that would match parts of characters.

Under the case flag a set is closed under simple case folding before it is negated.
-/

namespace Chatflow

namespace Regex

open Unicode (CodeSet)

/-- A place in the text. -/
inductive Look where
  | start
  | finish
  | startLine
  | endLine
  | startLineCrlf
  | endLineCrlf
  | wordBoundary (unicode : Bool)
  | notWordBoundary (unicode : Bool)
  | wordStart (unicode : Bool)
  | wordEnd (unicode : Bool)
  | wordStartHalf (unicode : Bool)
  | wordEndHalf (unicode : Bool)
  deriving DecidableEq, Repr

/-- A regular expression, ready to be matched. -/
inductive Expr where
  | empty
  /-- One character of a set. -/
  | set (chars : CodeSet)
  | look (look : Look)
  | repetition (min : Nat) (max : Option Nat) (greedy : Bool) (sub : Expr)
  | capture (index : Nat) (sub : Expr)
  | concat (parts : List Expr)
  | alternation (branches : List Expr)
  deriving Inhabited

/-! ### Sets of characters -/

/-- The characters of words: letters, marks, digits, connectors and joiners. -/
def wordChars : CodeSet :=
  ((CodeSet.ofStretches Unicode.Property.alphabetic).union
    (Unicode.Category.ofLetters ["Mn", "Mc", "Me", "Nd", "Pc"])).union
    (CodeSet.ofStretches Unicode.Property.joinControl)

/-- The digits of all scripts. -/
def digitChars : CodeSet := Unicode.Category.ofLetters ["Nd"]

/-- The ASCII characters of words. -/
def asciiWordChars : CodeSet :=
  .ofRanges [(0x30, 0x39), (0x41, 0x5A), (0x5F, 0x5F), (0x61, 0x7A)]

/-- The set of a class with an escape. -/
def ShortClass.toSet (unicode : Bool) : ShortClass → CodeSet
  | .digit => if unicode then digitChars else .ofRanges [(0x30, 0x39)]
  | .space => if unicode then Text.blanks else .ofRanges [(0x09, 0x0D), (0x20, 0x20)]
  | .word => if unicode then wordChars else asciiWordChars

/-- The set of a named ASCII class. -/
def asciiSet (name : String) : CodeSet :=
  .ofRanges <| match name with
    | "alnum" => [(0x30, 0x39), (0x41, 0x5A), (0x61, 0x7A)]
    | "alpha" => [(0x41, 0x5A), (0x61, 0x7A)]
    | "ascii" => [(0x00, 0x7F)]
    | "blank" => [(0x09, 0x09), (0x20, 0x20)]
    | "cntrl" => [(0x00, 0x1F), (0x7F, 0x7F)]
    | "digit" => [(0x30, 0x39)]
    | "graph" => [(0x21, 0x7E)]
    | "lower" => [(0x61, 0x7A)]
    | "print" => [(0x20, 0x7E)]
    | "punct" => [(0x21, 0x2F), (0x3A, 0x40), (0x5B, 0x60), (0x7B, 0x7E)]
    | "space" => [(0x09, 0x0D), (0x20, 0x20)]
    | "upper" => [(0x41, 0x5A)]
    | "word" => [(0x30, 0x39), (0x41, 0x5A), (0x5F, 0x5F), (0x61, 0x7A)]
    | "xdigit" => [(0x30, 0x39), (0x41, 0x46), (0x61, 0x66)]
    | _ => []

/-! ### Names of properties -/

/-- A name in lower case without blanks, hyphens, underscores and a leading `is`. -/
def looseName (name : String) : String :=
  let cs := name.toList
  let lead := (cs.take 2).map Char.toLower == ['i', 's']
  let kept := ((if lead then cs.drop 2 else cs).filter fun c =>
    c ≠ ' ' && c ≠ '_' && c ≠ '-' && c.toNat < 128).map Char.toLower
  String.ofList (if lead && kept == ['c'] then ['i', 's', 'c'] else kept)

/-- The set of a property given by a name alone: a property, a category or a script. The names
`cf`, `sc` and `lc` mean the categories. -/
def namedSet? (name : String) : Option CodeSet :=
  let name := looseName name
  let property :=
    if name = "cf" || name = "sc" || name = "lc" then none else Unicode.Property.ofName? name
  property <|> Unicode.Category.ofName? name <|> Unicode.Script.ofName? name

/-- The set of a property given by a name and a value. -/
def valuedSet? (name value : String) : Option CodeSet :=
  let name := looseName name
  if name = "generalcategory" || name = "gc" then Unicode.Category.ofName? (looseName value)
  else if name = "script" || name = "sc" then Unicode.Script.ofName? (looseName value)
  else if name = "scriptextensions" || name = "scx" then
    (Unicode.Script.letters? (looseName value)).map Unicode.Script.extended
  else if name = "age" then Unicode.Age.ofName? (looseName value)
  else none

/-- The set of a property as written. -/
def PropertyQuery.toSet? : PropertyQuery → Option CodeSet
  | .name n => namedSet? n
  | .value n v => valuedSet? n v

/-! ### Flags -/

/-- The flags in force. -/
structure Flags where
  caseInsensitive : Bool
  multiLine : Bool
  dotMatchesNewline : Bool
  swapGreed : Bool
  unicode : Bool
  crlf : Bool
  deriving DecidableEq, Repr

namespace Flags

/-- The flags at the start: case is ignored, and texts are Unicode. -/
def initial : Flags := ⟨true, false, false, false, true, false⟩

/-- The flags after a change. -/
def change (f : Flags) (changes : FlagChange) : Flags :=
  changes.foldl (fun f (flag, on) =>
    match flag with
    | .caseInsensitive => { f with caseInsensitive := on }
    | .multiLine => { f with multiLine := on }
    | .dotMatchesNewline => { f with dotMatchesNewline := on }
    | .swapGreed => { f with swapGreed := on }
    | .unicode => { f with unicode := on }
    | .crlf => { f with crlf := on }
    | .ignoreWhitespace => f) f

/-- A set closed under case folding where case is ignored: all of Unicode, or ASCII letters. -/
def foldCase (f : Flags) (s : CodeSet) : CodeSet :=
  if !f.caseInsensitive then s
  else if f.unicode then Unicode.Case.closure s
  else
    let upper := (s.inter (.ofRanges [(0x61, 0x7A)])).ranges.toList.map fun r =>
      (r.1 - 32, r.2 - 32)
    let lower := (s.inter (.ofRanges [(0x41, 0x5A)])).ranges.toList.map fun r =>
      (r.1 + 32, r.2 + 32)
    .ofRanges (s.ranges.toList ++ upper ++ lower)

/-- A set, negated if asked for. Without Unicode a negated set holds parts of characters and is
refused. -/
def negate? (f : Flags) (negated : Bool) (s : CodeSet) : Option CodeSet :=
  if f.unicode then some (if negated then s.complement else s)
  else if negated || !s.isAscii then none
  else some s

/-- A set, closed under case folding and then negated. -/
def finish? (f : Flags) (negated : Bool) (s : CodeSet) : Option CodeSet :=
  f.negate? negated (f.foldCase s)

end Flags

/-! ### Classes -/

/-- The set of a character between brackets. -/
def literalSet? (f : Flags) (low high : Char) : Option CodeSet :=
  if !f.unicode && 128 ≤ high.toNat then none else some (.ofRanges [(low.toNat, high.toNat)])

mutual

/-- The set of what stands between brackets, before it is closed and negated. -/
def ClassAst.toSet? (f : Flags) : ClassAst → Option CodeSet
  | .literal c _ => literalSet? f c c
  | .range low high _ => literalSet? f low high
  | .ascii name negated => f.finish? negated (asciiSet name)
  | .short kind negated => f.negate? negated (kind.toSet f.unicode)
  | .property query negated =>
    if f.unicode then query.toSet?.bind (f.finish? negated) else none
  | .bracketed negated inner => (inner.toSet? f).bind (f.finish? negated)
  | .union items => ClassAst.unionSets? f items
  | .op kind left right => do
    let left := f.foldCase (← left.toSet? f)
    let right := f.foldCase (← right.toSet? f)
    return match kind with
      | .inter => left.inter right
      | .difference => left.difference right
      | .symmDifference => left.symmDifference right

/-- The union of the sets of some elements. -/
def ClassAst.unionSets? (f : Flags) : List ClassAst → Option CodeSet
  | [] => some .empty
  | a :: rest => do return (← a.toSet? f).union (← ClassAst.unionSets? f rest)

end

/-! ### Expressions -/

/-- The place that an anchor stands for. -/
def Anchor.toLook (f : Flags) : Anchor → Look
  | .startLine => if f.multiLine then (if f.crlf then .startLineCrlf else .startLine) else .start
  | .endLine => if f.multiLine then (if f.crlf then .endLineCrlf else .endLine) else .finish
  | .startText => .start
  | .endText => .finish
  | .wordBoundary => .wordBoundary f.unicode
  | .notWordBoundary => .notWordBoundary f.unicode
  | .wordStart => .wordStart f.unicode
  | .wordEnd => .wordEnd f.unicode
  | .wordStartHalf => .wordStartHalf f.unicode
  | .wordEndHalf => .wordEndHalf f.unicode

/-- The set of the dot: everything but the ends of lines. -/
def dotSet? (f : Flags) : Option CodeSet :=
  if !f.unicode then none
  else if f.dotMatchesNewline then some .all
  else if f.crlf then some (CodeSet.ofRanges [(0x0A, 0x0A), (0x0D, 0x0D)]).complement
  else some (CodeSet.ofRanges [(0x0A, 0x0A)]).complement

mutual

/-- Whether an expression matches no character at all. -/
def Expr.isPlace : Expr → Bool
  | .empty => true
  | .set _ => false
  | .look _ => true
  | .repetition _ max _ sub => max == some 0 || sub.isPlace
  | .capture _ sub => sub.isPlace
  | .concat parts => Expr.arePlaces parts
  | .alternation branches => Expr.arePlaces branches

/-- Whether none of some expressions matches a character. -/
def Expr.arePlaces : List Expr → Bool
  | [] => true
  | e :: rest => e.isPlace && Expr.arePlaces rest

end

/-- A repetition. What matches no character is repeated at most once; no repetitions at all match
the empty text, and just one is the expression itself. -/
def Expr.repeat (min : Nat) (max : Option Nat) (greedy : Bool) (sub : Expr) : Expr :=
  let (min, max) := if sub.isPlace then (Nat.min min 1, some (Nat.min (max.getD 1) 1))
    else (min, max)
  match min, max with
  | 0, some 0 => .empty
  | 1, some 1 => sub
  | min, max => .repetition min max greedy sub

mutual

/-- The expression under the flags in force, and the flags after it. -/
def Ast.toExpr? (f : Flags) : Ast → Option (Expr × Flags)
  | .empty => some (.empty, f)
  | .flags changes => some (.empty, f.change changes)
  | .literal c byte =>
    if !f.unicode && byte && 128 ≤ c.toNat then none
    else some (.set (f.foldCase (.ofRanges [(c.toNat, c.toNat)])), f)
  | .dot => (dotSet? f).map fun s => (.set s, f)
  | .anchor a => some (.look (a.toLook f), f)
  | .short kind negated => (f.negate? negated (kind.toSet f.unicode)).map fun s => (.set s, f)
  | .property query negated => do
    let s ← if f.unicode then query.toSet?.bind (f.finish? negated) else none
    return (.set s, f)
  | .bracketed negated inner => do
    return (.set (← (← inner.toSet? f) |> f.finish? negated), f)
  | .repetition min max greedy sub => do
    let (e, after) ← sub.toExpr? f
    return (.repeat min max (greedy != after.swapGreed) e, after)
  | .group capture changes sub => do
    let (e, _) ← sub.toExpr? (f.change changes)
    return (match capture with
      | some index => .capture index e
      | none => e, f)
  | .alternation branches => do
    let (es, f) ← Ast.toExprs? f branches
    return (.alternation es, f)
  | .concat parts => do
    let (es, f) ← Ast.toExprs? f parts
    return (.concat es, f)

/-- Expressions one after the other, each under the flags after the one before. -/
def Ast.toExprs? (f : Flags) : List Ast → Option (List Expr × Flags)
  | [] => some ([], f)
  | a :: rest => do
    let (e, f) ← a.toExpr? f
    let (es, f) ← Ast.toExprs? f rest
    return (e :: es, f)

end

end Regex

end Chatflow
