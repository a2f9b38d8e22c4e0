/-!
# Arguments of the console

The words of a command line: `--flow`, `--config` and `--visitor`, each with a value that is the
next word or stands behind an equals sign, and `-f` and `-c` for the first two. An option is given
at most once, and a value that is the next word does not begin with a dash, unless it is one.
-/

namespace Chatflow

namespace Console

/-- An option that takes a value. -/
inductive Flag where
  | flow
  | config
  | visitor
  deriving DecidableEq, Repr

namespace Flag

/-- The name of an option. -/
def name : Flag → String
  | .flow => "flow"
  | .config => "config"
  | .visitor => "visitor"

/-- The letter that stands for an option. -/
def letter? : Flag → Option Char
  | .flow => some 'f'
  | .config => some 'c'
  | .visitor => none

/-- Whether the value of an option is a path, which cannot be empty. -/
def isPath : Flag → Bool
  | .flow | .config => true
  | .visitor => false

/-- All options. -/
def all : List Flag := [.flow, .config, .visitor]

end Flag

/-- What a word is. -/
inductive Word where
  /-- A value. -/
  | plain
  /-- A request for help. -/
  | help
  /-- An option, with its value if that is in the same word. -/
  | flag (flag : Flag) (value : Option String)
  /-- The end of the options. -/
  | separator
  /-- No option that there is. -/
  | unknown
  deriving DecidableEq, Repr

/-- What some characters behind the name of an option give as its value. -/
def inlineValue? : List Char → Option String
  | '=' :: value => some (String.ofList value)
  | _ => none

/-- What a word is. -/
def Word.ofText (text : String) : Word :=
  match text.toList with
  | ['-', '-'] => .separator
  | '-' :: '-' :: rest =>
    let name := String.ofList (rest.takeWhile (· ≠ '='))
    let value := inlineValue? (rest.dropWhile (· ≠ '='))
    match Flag.all.find? (·.name = name) with
    | some option => .flag option value
    | none => if name = "help" && value.isNone then .help else .unknown
  | '-' :: letter :: rest =>
    match Flag.all.find? (·.letter? = some letter) with
    | some option =>
      .flag option (if rest.isEmpty then none else (inlineValue? rest).or (String.ofList rest))
    | none => if letter = 'h' then .help else .unknown
  | _ => .plain

/-- Why a command line is not carried out. -/
inductive Usage where
  /-- Help is asked for. -/
  | help
  /-- A word is not understood. -/
  | unexpected (word : String)
  /-- An option lacks its value. -/
  | noValue (flag : Flag)
  /-- An option is given twice. -/
  | twice (flag : Flag)
  deriving DecidableEq, Repr

namespace Usage

/-- The text of a reason. -/
def message : Usage → String
  | .help => "Usage: console-bot [--flow <FLOW>] [--config <CONFIG>] [--visitor <VISITOR>]"
  | .unexpected word => "error: unexpected argument '" ++ word ++ "' found"
  | .noValue flag => "error: a value is required for '--" ++ flag.name ++ "' but none was supplied"
  | .twice flag => "error: the argument '--" ++ flag.name ++ "' cannot be used multiple times"

/-- The exit status. -/
def status (u : Usage) : UInt8 := if u = .help then 0 else 2

end Usage

/-- The options given. -/
abbrev Arguments := List (Flag × String)

namespace Arguments

/-- The value of an option. -/
def find? (a : Arguments) (flag : Flag) : Option String :=
  (List.find? (·.1 = flag) a).map (·.2)

/-- The arguments with one more option. -/
def insert (a : Arguments) (flag : Flag) (value : String) : Except Usage Arguments :=
  if flag.isPath && value = "" then .error (.noValue flag)
  else if a.any (·.1 = flag) then .error (.twice flag)
  else .ok ((flag, value) :: a)

/-- Reads words after others were read, the last of which may be an option without its value. -/
def readAfter (a : Arguments) : (pending : Option Flag) → List String → Except Usage Arguments
  | none, [] => .ok a
  | some flag, [] => .error (.noValue flag)
  | some flag, word :: rest =>
    match Word.ofText word with
    | .plain => do readAfter (← a.insert flag word) none rest
    | _ => .error (.noValue flag)
  | none, word :: rest =>
    match Word.ofText word with
    | .help => .error .help
    | .flag flag (some value) => do readAfter (← a.insert flag value) none rest
    | .flag flag none => readAfter a (some flag) rest
    | .separator =>
      match rest with
      | [] => .ok a
      | next :: _ => .error (.unexpected next)
    | .plain | .unknown => .error (.unexpected word)

/-- Reads the words of a command line. -/
def read (words : List String) : Except Usage Arguments := readAfter [] none words

/-- The path of the flow. -/
def flow (a : Arguments) : String := (a.find? .flow).getD "flow.json"

/-- The path of the configuration, if one is asked for. -/
def config? (a : Arguments) : Option String := a.find? .config

/-- The visitor. -/
def visitor (a : Arguments) : String := (a.find? .visitor).getD "console-visitor"

end Arguments

end Console

end Chatflow
