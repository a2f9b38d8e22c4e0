import Chatflow.Unicode.Case

/-!
# Profiles

A profile is what a bot is run for; it names the configuration file read beside the main one.
-/

namespace Chatflow

/-- What a bot is run for. -/
inductive Profile where
  | development
  | production
  | custom (name : String)
  deriving DecidableEq, Repr

namespace Profile

/-- The name of a profile. -/
def name : Profile → String
  | .development => "development"
  | .production => "production"
  | .custom name => name

/-- The profile of a name, without regard to case. -/
def ofName (name : String) : Profile :=
  match Unicode.Case.lower name with
  | "production" | "prod" => .production
  | "development" | "dev" => .development
  | other => .custom other

end Profile

end Chatflow
