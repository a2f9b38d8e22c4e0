import Chatflow.Unicode.CodeSet

/-!
# Regular expressions as written

The tree of a regular expression before its flags are applied. Characters, classes and groups are
kept as they were written; `Ast.depth` is the nesting that the reader bounds.
-/

namespace Chatflow

namespace Regex

/-! ### Flags -/

/-- A switch that changes what follows it. -/
inductive Flag where
  | caseInsensitive
  | multiLine
  | dotMatchesNewline
  | swapGreed
  | unicode
  | crlf
  | ignoreWhitespace
  deriving DecidableEq, Repr

/-- Flags set or cleared together. -/
abbrev FlagChange := List (Flag × Bool)

/-! ### Classes -/

/-- The classes with an escape of one letter. -/
inductive ShortClass where
  | digit
  | space
  | word
  deriving DecidableEq, Repr

/-- How two sets in brackets are combined. -/
inductive SetOp where
  | inter
  | difference
  | symmDifference
  deriving DecidableEq, Repr

/-- A property of code points as written: a name, or a name and a value. -/
inductive PropertyQuery where
  | name (name : String)
  | value (name value : String)
  deriving DecidableEq, Repr

/-- What stands between brackets. -/
inductive ClassAst where
  /-- A character; `byte` when it was written with two hexadecimal digits. -/
  | literal (c : Char) (byte : Bool)
  | range (low high : Char) (byte : Bool)
  /-- A named class of ASCII characters. -/
  | ascii (name : String) (negated : Bool)
  | short (kind : ShortClass) (negated : Bool)
  | property (query : PropertyQuery) (negated : Bool)
  | bracketed (negated : Bool) (inner : ClassAst)
  | union (items : List ClassAst)
  | op (kind : SetOp) (left right : ClassAst)
  deriving Repr, Inhabited

/-! ### Expressions -/

/-- A place in the text, as written. -/
inductive Anchor where
  | startLine
  | endLine
  | startText
  | endText
  | wordBoundary
  | notWordBoundary
  | wordStart
  | wordEnd
  | wordStartHalf
  | wordEndHalf
  deriving DecidableEq, Repr

/-- A regular expression as written. -/
inductive Ast where
  | empty
  | flags (change : FlagChange)
  | literal (c : Char) (byte : Bool)
  | dot
  | anchor (a : Anchor)
  | short (kind : ShortClass) (negated : Bool)
  | property (query : PropertyQuery) (negated : Bool)
  | bracketed (negated : Bool) (inner : ClassAst)
  | repetition (min : Nat) (max : Option Nat) (greedy : Bool) (sub : Ast)
  /-- A group with the number of its capture and the flags it sets. -/
  | group (capture : Option Nat) (change : FlagChange) (sub : Ast)
  | alternation (branches : List Ast)
  | concat (parts : List Ast)
  deriving Repr, Inhabited

mutual

/-- The nesting of what stands between brackets. -/
def ClassAst.depth : ClassAst → Nat
  | .bracketed _ inner => inner.depth + 1
  | .union items => ClassAst.depthList items + 1
  | .op _ left right => max left.depth right.depth + 1
  | .literal .. | .range .. | .ascii .. | .short .. | .property .. => 0

/-- The deepest nesting of a list. -/
def ClassAst.depthList : List ClassAst → Nat
  | [] => 0
  | a :: as => max a.depth (ClassAst.depthList as)

end

mutual

/-- The nesting of an expression. -/
def Ast.depth : Ast → Nat
  | .bracketed _ inner => inner.depth + 1
  | .repetition _ _ _ sub => sub.depth + 1
  | .group _ _ sub => sub.depth + 1
  | .alternation branches => Ast.depthList branches + 1
  | .concat parts => Ast.depthList parts + 1
  | .empty | .flags _ | .literal .. | .dot | .anchor _ | .short .. | .property .. => 0

/-- The deepest nesting of a list. -/
def Ast.depthList : List Ast → Nat
  | [] => 0
  | a :: as => max a.depth (Ast.depthList as)

end

end Regex

end Chatflow
