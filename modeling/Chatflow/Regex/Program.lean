import Chatflow.Regex.Expr

/-!
# Programs of regular expressions

An expression is compiled to a list of instructions that name each other by index: take one
character of a set, branch, check a place, save the position, or be done. Of the targets of a
branch the earlier is preferred, so a greedy repetition names its body first.

`Expr.weight` estimates the size of the program before it is built; expressions over
`weightLimit` are refused.
-/

namespace Chatflow

namespace Regex

open Unicode (CodeSet)

/-- An instruction, with the indices of those that follow it. -/
inductive Inst where
  | char (chars : CodeSet) (next : Nat)
  | branch (targets : List Nat)
  | look (look : Look) (next : Nat)
  | save (slot : Nat) (next : Nat)
  | done
  | fail
  deriving Inhabited

/-! ### Weights -/

/-- The size of what one set of characters takes in bytes of their encoding. -/
def setWeight (s : CodeSet) : Nat :=
  s.ranges.foldl (fun w r => w + if r.2 < 128 then 8 else 60) 64

mutual

/-- An estimate of the size of the program of an expression. -/
def Expr.weight : Expr → Nat
  | .empty => 32
  | .set s => setWeight s
  | .look _ => 32
  | .repetition min max _ sub => (sub.weight + 40) * (Nat.max (max.getD (min + 1)) 1)
  | .capture _ sub => sub.weight + 64
  | .concat parts => Expr.weights parts
  | .alternation branches => Expr.weights branches + 40

/-- The sum of the weights of some expressions. -/
def Expr.weights : List Expr → Nat
  | [] => 0
  | e :: rest => e.weight + Expr.weights rest

end

/-- The largest weight of an expression that is compiled. -/
def weightLimit : Nat := 10485760

mutual

/-- The largest number of a capture in an expression. -/
def Expr.lastCapture : Expr → Nat
  | .capture index sub => max index sub.lastCapture
  | .repetition _ _ _ sub => sub.lastCapture
  | .concat parts => Expr.lastCaptures parts
  | .alternation branches => Expr.lastCaptures branches
  | .empty | .set _ | .look _ => 0

/-- The largest number of a capture in some expressions. -/
def Expr.lastCaptures : List Expr → Nat
  | [] => 0
  | e :: rest => max e.lastCapture (Expr.lastCaptures rest)

end

mutual

/-- Whether every match of an expression takes a character. -/
def Expr.consumes : Expr → Bool
  | .empty => false
  | .set s => !s.isEmpty
  | .look _ => false
  | .repetition min _ _ sub => 0 < min && sub.consumes
  | .capture _ sub => sub.consumes
  | .concat parts => Expr.someConsumes parts
  | .alternation branches => Expr.allConsume branches

/-- Whether one of some expressions always takes a character. -/
def Expr.someConsumes : List Expr → Bool
  | [] => false
  | e :: rest => e.consumes || Expr.someConsumes rest

/-- Whether all of some expressions always take a character. -/
def Expr.allConsume : List Expr → Bool
  | [] => true
  | e :: rest => e.consumes && Expr.allConsume rest

end

/-! ### Compilation -/

/-- Adds to a program what leads to an instruction, and gives the index where to enter. -/
abbrev Emit := Nat → Array Inst → Nat × Array Inst

/-- Adds one instruction. -/
def emit (i : Inst) (p : Array Inst) : Nat × Array Inst := (p.size, p.push i)

/-- A branch that prefers to go on with a body, or to leave it. -/
def prefer (greedy : Bool) (body leave : Nat) : Inst :=
  .branch (if greedy then [body, leave] else [leave, body])

/-- A body that is entered again after each of its matches. -/
def loop (greedy : Bool) (body : Emit) (next : Nat) (p : Array Inst) : Nat × Nat × Array Inst :=
  let (again, p) := emit .fail p
  let (entry, p) := body again p
  (entry, again, p.setIfInBounds again (prefer greedy entry next))

/-- A body any number of times. One that can match the empty text is entered once before it is
repeated, so that its captures are those of a match. -/
def anyTimes (greedy consumes : Bool) (body : Emit) (next : Nat) (p : Array Inst) :
    Nat × Array Inst :=
  let (entry, again, p) := loop greedy body next p
  if consumes then (again, p) else emit (prefer greedy entry next) p

/-- A body a fixed number of times. -/
def times (body : Emit) : Nat → Emit
  | 0, next, p => (next, p)
  | n + 1, next, p =>
    let (entry, p) := body next p
    times body n entry p

/-- A body up to a number of times, each of which can be left for the end. -/
def upTo (greedy : Bool) (body : Emit) (leave : Nat) : Nat → Emit
  | 0, next, p => (next, p)
  | n + 1, next, p =>
    let (entry, p) := body next p
    let (entry, p) := emit (prefer greedy entry leave) p
    upTo greedy body leave n entry p

mutual

/-- Adds the instructions of an expression. -/
def Expr.compile : Expr → Emit
  | .empty, next, p => (next, p)
  | .set s, next, p => if s.isEmpty then emit .fail p else emit (.char s next) p
  | .look l, next, p => emit (.look l next) p
  | .capture index sub, next, p =>
    let (close, p) := emit (.save (2 * index + 1) next) p
    let (entry, p) := sub.compile close p
    emit (.save (2 * index) entry) p
  | .repetition min none greedy sub, next, p =>
    let body := fun next p => sub.compile next p
    match min with
    | 0 => anyTimes greedy sub.consumes body next p
    | n + 1 =>
      let (entry, _, p) := loop greedy body next p
      times body n entry p
  | .repetition min (some max) greedy sub, next, p =>
    let body := fun next p => sub.compile next p
    let (entry, p) := upTo greedy body next (max - min) next p
    times body min entry p
  | .concat parts, next, p => Expr.compileAll parts next p
  | .alternation branches, next, p =>
    let (entries, p) := Expr.compileEach branches next p
    emit (.branch entries) p

/-- Adds the instructions of expressions that follow each other. -/
def Expr.compileAll : List Expr → Emit
  | [], next, p => (next, p)
  | e :: rest, next, p =>
    let (entry, p) := Expr.compileAll rest next p
    e.compile entry p

/-- Adds the instructions of expressions one of which is taken. -/
def Expr.compileEach : List Expr → Nat → Array Inst → List Nat × Array Inst
  | [], _, p => ([], p)
  | e :: rest, next, p =>
    let (entry, p) := e.compile next p
    let (entries, p) := Expr.compileEach rest next p
    (entry :: entries, p)

end

/-- A compiled regular expression. -/
structure Program where
  /-- The instructions. -/
  insts : Array Inst
  /-- The index of the first instruction. -/
  entry : Nat
  /-- The number of captures. -/
  captures : Nat

/-- The program of an expression, with the bounds of the whole match saved first and last. -/
def Program.ofExpr (e : Expr) : Program :=
  let (finish, p) := emit .done #[]
  let (close, p) := emit (.save 1 finish) p
  let (entry, p) := e.compile close p
  let (entry, p) := emit (.save 0 entry) p
  ⟨p, entry, e.lastCapture⟩

end Regex

end Chatflow
