import Chatflow.Matching.Basic

/-!
# Matching through a cache

Regular expressions are compiled once: a `RegexCache` keeps what became of every text that was
tried, also of those that are no regular expression. A text is tried only when its turn comes, so
the cache also shows how far matching went.
-/

namespace Chatflow

/-- What became of the texts of regular expressions tried so far. -/
structure RegexCache where
  /-- The regular expressions by their texts; `none` for a text that is none. -/
  entries : Dict (Option Regex)

namespace RegexCache

/-- Nothing was tried yet. -/
def empty : RegexCache := ⟨.empty⟩

/-- The number of texts tried. -/
def size (c : RegexCache) : Nat := c.entries.size

/-- The regular expression of a text, and the cache after it was tried. -/
def lookup (c : RegexCache) (source : String) : Option Regex × RegexCache :=
  match c.entries.find? source with
  | some r => (r, c)
  | none =>
    let r := Regex.compile? source
    (r, ⟨c.entries.insert source r⟩)

/-- The cache after the text of a pattern was tried. -/
def tryPattern (c : RegexCache) (p : Pattern) : RegexCache :=
  match p.regexSource? with
  | some source => (c.lookup source).2
  | none => c

/-- What the first of some patterns that matches captures, and the cache after those tried. -/
def matchPatterns? (c : RegexCache) (text lowered : String) :
    List Pattern → Option (List String) × RegexCache
  | [] => (none, c)
  | p :: rest =>
    let after := c.tryPattern p
    match p.matchText? (fun source => (c.lookup source).1) text lowered with
    | some captures => (some captures, after)
    | none => after.matchPatterns? text lowered rest

/-- What the first text pattern of a block that matches captures, and the cache after it. -/
def matchText? (c : RegexCache) (b : Block) (text : String) :
    Option (List String) × RegexCache :=
  c.matchPatterns? text (Unicode.Case.lower (Text.trim text)) b.patterns

/-- The first block with a pattern for a text, and the cache after it. -/
def matchByText? (c : RegexCache) (text : String) :
    List Block → Option BlockMatch × RegexCache
  | [] => (none, c)
  | b :: rest =>
    match c.matchText? b text with
    | (some captures, after) => (some ⟨b, .text, captures⟩, after)
    | (none, after) => after.matchByText? text rest

/-- The candidate that answers an event, and the cache after it. -/
def matchBlock? (c : RegexCache) (e : Event) (candidates : List Block) :
    Option BlockMatch × RegexCache :=
  let blocks := e.eligible candidates
  match e.matchByPayload? blocks with
  | some found => (some found, c)
  | none =>
    match c.matchByText? (Text.trim e.text) blocks with
    | (some found, after) => (some found, after)
    | (none, after) => (e.matchByNlp? blocks, after)

/-- The text of a matcher with this cache in diagnostics. -/
def describe (c : RegexCache) : String :=
  "PatternMatcher \x7b cached_regexes: " ++ toString c.size ++ " \x7d"

end RegexCache

end Chatflow
