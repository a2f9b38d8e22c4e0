/-!
# Lines

The lines of a text. A line ends with a line feed, which a carriage return may precede; what follows
the last line feed is a line only if it is not empty.
-/

namespace Chatflow

namespace Text

/-- A line without the carriage return at its end. -/
def withoutReturn (line : List Char) : String :=
  String.ofList (if line.getLast? = some '\r' then line.dropLast else line)

/-- The lines of some characters that follow the beginning of a line, which is given backwards. -/
def linesAfter (before : List Char) : List Char → List String
  | [] => if before.isEmpty then [] else [String.ofList before.reverse]
  | c :: rest =>
    if c = '\n' then withoutReturn before.reverse :: linesAfter [] rest
    else linesAfter (c :: before) rest

/-- The lines of a text. -/
def lines (text : String) : List String := linesAfter [] text.toList

end Text

end Chatflow
