import Chatflow.Json.Printer
import Chatflow.Rendering.Executor

/-!
# The summary executor

Answers with the variables of the conversation, a line for each.
-/

namespace Chatflow

namespace Console

/-- The line of a variable: a text stands as it is, any other value in its JSON form. -/
def summaryLine (name : String) : Json → String
  | .str text => "- " ++ name ++ ": " ++ text
  | value => "- " ++ name ++ ": " ++ Json.compact value

/-- What is said about some variables. -/
def summaryText (vars : Dict Json) : String :=
  if vars.isEmpty then "I don't know anything about you yet."
  else "Here is what I know:\n" ++ "\n".intercalate (vars.entries.map fun e => summaryLine e.1 e.2)

/-- Answers with the variables of the conversation. -/
def summary : Executor := fun _ c _ => .ok (.text (summaryText c.vars))

/-- The executors that a console has. -/
def executors : Executor.Registry := .ofList [("summary", summary)]

end Console

end Chatflow
