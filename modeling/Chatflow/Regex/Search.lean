import Chatflow.Regex.Parser
import Chatflow.Regex.Program

/-!
# Searching with regular expressions

All ways to match are followed side by side, one character at a time, in order of preference, so
the work is bounded by the product of the sizes of the text and the program. The match found is
the leftmost, and of those the one that backtracking would find first.
-/

namespace Chatflow

namespace Regex

/-! ### Places -/

/-- Whether the character at an index is one of a word. -/
def wordAt (unicode : Bool) (text : Array Char) (i : Nat) : Bool :=
  match text[i]? with
  | some c => (if unicode then wordChars else asciiWordChars).contains c.toNat
  | none => false

/-- Whether the character before an index is one of a word. -/
def wordBefore (unicode : Bool) (text : Array Char) (i : Nat) : Bool :=
  0 < i && wordAt unicode text (i - 1)

/-- Whether a place is at an index. -/
def Look.holds (text : Array Char) (i : Nat) : Look → Bool
  | .start => i = 0
  | .finish => i = text.size
  | .startLine => i = 0 || text[i - 1]? = some '\n'
  | .endLine => i = text.size || text[i]? = some '\n'
  | .startLineCrlf =>
    i = 0 || text[i - 1]? = some '\n' || (text[i - 1]? = some '\r' && text[i]? ≠ some '\n')
  | .endLineCrlf =>
    i = text.size || text[i]? = some '\r' ||
      (text[i]? = some '\n' && (i = 0 || text[i - 1]? ≠ some '\r'))
  | .wordBoundary u => wordBefore u text i != wordAt u text i
  | .notWordBoundary u => wordBefore u text i == wordAt u text i
  | .wordStart u => !wordBefore u text i && wordAt u text i
  | .wordEnd u => wordBefore u text i && !wordAt u text i
  | .wordStartHalf u => !wordBefore u text i
  | .wordEndHalf u => !wordAt u text i

/-! ### Threads -/

/-- The positions saved so far. -/
abbrev Slots := Array (Option Nat)

/-- A way to match: the instruction it has come to and the positions it has saved. -/
structure Thread where
  /-- The index of the instruction. -/
  pc : Nat
  /-- The positions saved. -/
  slots : Slots

/-- The threads at one position: which instructions have been reached, and the threads that wait
there for a character or are done, from last to first. -/
structure Front where
  /-- The instructions reached. -/
  seen : Array Bool
  /-- The threads, the least preferred first. -/
  threads : List Thread

/-- No thread yet. -/
def Front.empty (p : Program) : Front := ⟨Array.replicate p.insts.size false, []⟩

/-- Follows the threads on a stack through all instructions that take no character. -/
def Front.follow (p : Program) (text : Array Char) (i : Nat) :
    Nat → List Thread → Front → Front
  | 0, _, f => f
  | _, [], f => f
  | fuel + 1, t :: stack, f =>
    if f.seen[t.pc]?.getD true then follow p text i fuel stack f
    else
      let f : Front := { f with seen := f.seen.setIfInBounds t.pc true }
      match p.insts[t.pc]? with
      | some (.branch targets) =>
        follow p text i fuel (targets.map (⟨·, t.slots⟩) ++ stack) f
      | some (.look l next) =>
        follow p text i fuel (if l.holds text i then ⟨next, t.slots⟩ :: stack else stack) f
      | some (.save slot next) =>
        follow p text i fuel (⟨next, t.slots.setIfInBounds slot (some i)⟩ :: stack) f
      | some (.char _ _) => follow p text i fuel stack { f with threads := t :: f.threads }
      | some .done => follow p text i fuel stack { f with threads := t :: f.threads }
      | some .fail => follow p text i fuel stack f
      | none => follow p text i fuel stack f

/-- Enough fuel to follow threads through a program: each instruction is passed once and puts
its targets on the stack. -/
def Program.fuel (p : Program) : Nat :=
  p.insts.foldl (fun n inst => n + match inst with
    | .branch targets => targets.length + 1
    | _ => 2) 2

/-- Adds a thread and all that follow from it to a front, as the least preferred. -/
def Front.add (p : Program) (text : Array Char) (i : Nat) (t : Thread) (f : Front) : Front :=
  f.follow p text i p.fuel [t]

/-- Lets the threads, from the most preferred on, take a character. Once a thread is done those
after it are dropped. -/
def Front.step (p : Program) (text : Array Char) (i : Nat) :
    List Thread → Front → Option Slots → Front × Option Slots
  | [], f, best => (f, best)
  | t :: rest, f, best =>
    match p.insts[t.pc]? with
    | some .done => (f, some t.slots)
    | some (.char s next) =>
      match text[i]? with
      | some c =>
        if s.contains c.toNat then
          step p text i rest (f.add p text (i + 1) ⟨next, t.slots⟩) best
        else step p text i rest f best
      | none => step p text i rest f best
    | _ => step p text i rest f best

/-- Searches from a position on. A new thread starts at each position until one is done. -/
def Program.searchFrom (p : Program) (text : Array Char) :
    Nat → Nat → Front → Option Slots → Option Slots
  | 0, _, _, best => best
  | fuel + 1, i, f, best =>
    let f := if best.isSome then f
      else f.add p text i ⟨p.entry, Array.replicate (2 * p.captures + 2) none⟩
    if f.threads.isEmpty && best.isSome then best
    else
      let (next, best) := Front.step p text i f.threads.reverse (Front.empty p) best
      searchFrom p text fuel (i + 1) next best

end Regex

/-! ### Matches -/

/-- A regular expression, ready to search. -/
structure Regex where
  /-- Its program. -/
  program : Regex.Program

namespace Regex

/-- The regular expression of a text, in which case is ignored; `none` when the text is none or
its program is too large. -/
def compile? (source : String) : Option Regex := do
  let ast ← parse? source
  let (e, _) ← ast.toExpr? .initial
  if e.weight ≤ weightLimit then some ⟨Program.ofExpr e⟩ else none

/-- What a search finds: the text of the whole match and of each capture that took part. -/
structure Match where
  /-- The whole match. -/
  whole : String
  /-- The captures, in order of their opening parentheses. -/
  groups : List (Option String)
  deriving DecidableEq, Repr

/-- The text between two saved positions. -/
def slice (text : Array Char) (slots : Slots) (group : Nat) : Option String :=
  match slots[2 * group]?, slots[2 * group + 1]? with
  | some (some low), some (some high) => some (String.ofList (text.extract low high).toList)
  | _, _ => none

/-- The leftmost match in a text. -/
def find? (r : Regex) (text : String) : Option Match :=
  let cs := text.toList.toArray
  (r.program.searchFrom cs (cs.size + 1) 0 (Front.empty r.program) none).map fun slots =>
    ⟨(slice cs slots 0).getD "",
      (List.range r.program.captures).map fun i => slice cs slots (i + 1)⟩

end Regex

end Chatflow
