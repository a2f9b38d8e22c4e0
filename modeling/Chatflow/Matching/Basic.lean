import Chatflow.Block.Basic
import Chatflow.Event
import Chatflow.Regex.Search
import Chatflow.Unicode.Case

/-!
# Matching

Which of some candidate blocks answers an event. Candidates that are not for the channel or the
subscriber drop out, and those asking for more labels come first. Then three rules are tried in
turn, and the first candidate that meets a rule wins: its payload patterns accept the payload, its
text patterns match the trimmed text, or its language patterns hold; by the last rule the most
demanding pattern wins.

Text patterns take a way to look up regular expressions, `RegexSource`; `Regex.compile?` is the
plain one.
-/

namespace Chatflow

/-- A way to get the regular expression of a text. -/
abbrev RegexSource := String → Option Regex

/-! ### Patterns -/

/-- Whether a payload pattern accepts a payload: its code, alone or followed by `:`, or its
type. -/
def PayloadPattern.accepts (p : PayloadPattern) (payload : Payload) : Bool :=
  match payload with
  | .code code =>
    !p.value.isEmpty &&
      (code = p.value || (p.value.toList ++ [':']).isPrefixOf code.toList)
  | other => p.kind.isSome && p.kind = other.typeName?

/-- What a regular expression found: its captures, or the whole match when it has none. -/
def Regex.Match.captures (m : Regex.Match) : List String :=
  if m.groups.isEmpty then [m.whole] else m.groups.map (·.getD "")

/-- What a text pattern captures from a text: a regular expression its captures, a label or a
literal the whole text. Labels and literals are compared with the trimmed text, without case. -/
def Pattern.matchText? (regex : RegexSource) (text lowered : String) (p : Pattern) :
    Option (List String) :=
  match p.regexSource? with
  | some source => ((regex source).bind (·.find? text)).map (·.captures)
  | none =>
    match p with
    | .payload p => if lowered = Unicode.Case.lower p.label then some [text] else none
    | .text literal => if lowered = Unicode.Case.lower literal then some [text] else none
    | .nlp _ => none

namespace Block

/-- The first payload pattern of a block that accepts a payload. -/
def matchPayload? (b : Block) (payload : Payload) : Option PayloadPattern :=
  b.patterns.findSome? fun
    | .payload p => if p.accepts payload then some p else none
    | _ => none

/-- What the first text pattern of a block that matches captures. -/
def matchTextWith? (regex : RegexSource) (b : Block) (text : String) : Option (List String) :=
  b.patterns.findSome? (Pattern.matchText? regex text (Unicode.Case.lower (Text.trim text)))

/-- What the first text pattern of a block that matches captures. -/
def matchText? (b : Block) (text : String) : Option (List String) :=
  b.matchTextWith? Regex.compile? text

/-- The conditions of the first language pattern of a block that holds. A parse without entities
meets none. -/
def matchNlp? (b : Block) (parse : Nlp.Parse) : Option (List Nlp.Condition) :=
  if parse.isEmpty then none
  else b.patterns.findSome? fun
    | .nlp conditions => if conditions.all (·.holds parse) then some conditions else none
    | _ => none

end Block

/-! ### Candidates -/

/-- By which rule a block was chosen. -/
inductive MatchKind where
  | payload
  | text
  | nlp
  deriving DecidableEq, Repr

/-- The name of a rule. -/
def MatchKind.name : MatchKind → String
  | .payload => "payload"
  | .text => "text"
  | .nlp => "nlp"

/-- A chosen block, and what was captured on the way. -/
structure BlockMatch where
  /-- The block. -/
  block : Block
  /-- The rule that chose it. -/
  kind : MatchKind
  /-- What its text pattern captured. -/
  captures : List String
  deriving DecidableEq

/-- The JSON form of a match, with its block by its id. -/
def BlockMatch.toJson (m : BlockMatch) : Json :=
  .record [("block", .str m.block.id), ("kind", .str m.kind.name), ("captures", .texts m.captures)]

namespace Event

/-- Whether a block is for the channel of an event; on the console every block is. -/
def channelAllows (e : Event) (b : Block) : Bool :=
  b.triggerChannels.isEmpty || e.site = .console || b.triggerChannels.contains e.channel

/-- Whether a block is for the sender of an event. -/
def labelsAllow (e : Event) (b : Block) : Bool :=
  b.triggerLabels.isEmpty ||
    b.triggerLabels.any ((e.sender.map (·.labels)).getD []).contains

/-- The candidates that are for an event. Those with more labels come first, and others keep
their order. -/
def eligible (e : Event) (candidates : List Block) : List Block :=
  (candidates.filter fun b => e.channelAllows b && e.labelsAllow b).mergeSort fun a b =>
    b.triggerLabels.length ≤ a.triggerLabels.length

/-- The first block that accepts the payload of an event. -/
def matchByPayload? (e : Event) (blocks : List Block) : Option BlockMatch :=
  e.payload?.bind fun payload =>
    (blocks.find? fun b => (b.matchPayload? payload).isSome).map (⟨·, .payload, []⟩)

/-- The first block with a pattern for the text of an event. -/
def matchByText? (e : Event) (blocks : List Block) : Option BlockMatch :=
  blocks.findSome? fun b => (b.matchText? (Text.trim e.text)).map (⟨b, .text, ·⟩)

/-- The better of the best block so far and another: the one with more conditions, and of two
with as many the earlier. -/
def betterNlp (parse : Nlp.Parse) (best : Option (Block × Nat)) (b : Block) :
    Option (Block × Nat) :=
  match b.matchNlp? parse, best with
  | some conditions, none => some (b, conditions.length)
  | some conditions, some (_, length) =>
    if length < conditions.length then some (b, conditions.length) else best
  | none, _ => best

/-- The first of the blocks whose language pattern is the most demanding. -/
def matchByNlp? (e : Event) (blocks : List Block) : Option BlockMatch :=
  e.nlp.bind fun parse =>
    (blocks.foldl (betterNlp parse) none).map fun best => ⟨best.1, .nlp, []⟩

/-- The candidate that answers an event. -/
def matchBlock? (e : Event) (candidates : List Block) : Option BlockMatch :=
  let blocks := e.eligible candidates
  e.matchByPayload? blocks <|> e.matchByText? blocks <|> e.matchByNlp? blocks

/-! ### Languages -/

/-- The language that the parse of an event names, when it is an accepted one and the sender is
known. -/
def detectedLanguage? (e : Event) (languages : List String) : Option String := do
  let parse ← e.nlp
  let found ← parse.find? "language"
  if languages.contains found.value && e.sender.isSome then some found.value else none

/-- The event with the detected language as that of its sender. -/
def detectLanguage (e : Event) (languages : List String) : Event :=
  match e.detectedLanguage? languages with
  | some language => { e with sender := e.sender.map fun s => { s with language := some language } }
  | none => e

end Event

end Chatflow
