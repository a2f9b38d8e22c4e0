import Chatflow.Json.Printer
import Chatflow.Rendering.Executor

/-!
# Stock executors

Ready-made executors for trying out a flow: they answer with what they are given, or fail.
-/

namespace Chatflow

namespace Executor

/-- The arguments that a block gives to its executor. -/
def argsOf (b : Block) : Json :=
  match b.message with
  | .plugin _ args => args
  | _ => .null

/-- The stock executor of a name; one without a name of its own answers that name. -/
def stock (name : String) : Executor := fun block c conversationId =>
  match name with
  | "echo" => .ok (.text (c.text.getD ""))
  | "vars" => .ok (.text (Json.compact (.ofDict c.vars)))
  | "args" => .ok (.text (Json.compact (argsOf block)))
  | "conv" => .ok (.text (conversationId.getD "none"))
  | "system" => .ok (.system (some "done") (some (argsOf block)))
  | "fail" => .error (.executor "fail" "boom")
  | other => .ok (.text other)

/-- The registry of the stock executors of some names. -/
def stockRegistry (names : List String) : Registry := .ofList (names.map fun n => (n, stock n))

end Executor

end Chatflow
