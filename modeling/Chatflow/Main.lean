import Chatflow.Console.Session

/-!
# The console program

Reads the files that its command line names, then lines from standard input, and prints what the
bot says to each. All that is decided is decided in `Console`.
-/

namespace Chatflow

namespace Console

/-- The text of a file, if it can be read. -/
def readText? (path : String) : IO (Option String) := do
  try
    let text ← IO.FS.readFile path
    return some text
  catch _ => return none

/-- The texts of those of some files that can be read. -/
def readTexts (paths : List String) : IO (Dict String) := do
  let mut files := Dict.empty
  for path in paths do
    if let some text ← readText? path then files := files.insert path text
  return files

/-- The environment variables, from where the system shows them. -/
def readVariables : IO (Dict String) := do
  let text := (← readText? "/proc/self/environ").getD ""
  let pair (entry : String) : String × String :=
    let cs := entry.toList
    (String.ofList (cs.takeWhile (· ≠ '=')), String.ofList ((cs.dropWhile (· ≠ '=')).drop 1))
  return .ofList ((text.splitToList (· = '\x00')).map pair)

/-- Makes the log file, if there is to be one. -/
def makeLog (o : Logging.Options) : IO Unit := do
  if let some (directory, name) := o.logFile? then
    let directory : String :=
      match directory with
      | "/" :: names => "/" ++ "/".intercalate names
      | names => "/".intercalate ("." :: names)
    try
      IO.FS.createDirAll directory
      IO.FS.withFile (directory ++ "/" ++ name) .append fun _ => pure ()
    catch error => IO.eprintln ("Unable to open log file " ++ name ++ ": " ++ toString error)

/-- The numbers that choose texts, from a seed. -/
def rollsFrom (seed n : Nat) : Nat := (mixHash (hash seed) (hash n)).toNat

/-- Answers the lines of an input until it ends or a line leaves. -/
partial def converse (s : Session) (input output : IO.FS.Stream) (w : World) : IO World := do
  let line ← input.getLine
  if line.isEmpty then return w
  else
    match Command.ofLine s.visitor line with
    | .leave => return w
    | .nothing => converse s input output w
    | .say message =>
      let (printed, w) := (s.turn message).run w
      for text in printed do output.putStrLn text
      output.flush
      converse s input output w

end Console

end Chatflow

open Chatflow Chatflow.Console in
/-- The console program. -/
def main (words : List String) : IO UInt32 := do
  match Arguments.read words with
  | .error usage =>
    if usage = .help then IO.println usage.message else IO.eprintln usage.message
    return usage.status.toUInt32
  | .ok arguments =>
    let files ← readTexts (arguments.flow :: arguments.config?.toList)
    let surroundings : Surroundings := ⟨files, ← readVariables, ""⟩
    let seed ← IO.rand 0 0xFFFFFFFF
    match Session.ofArguments arguments surroundings (rollsFrom seed) with
    | .error error =>
      IO.eprintln ("Error: " ++ error.message)
      return 1
    | .ok session =>
      makeLog session.config.logging
      let w ← converse session (← IO.getStdin) (← IO.getStdout) Session.world
      IO.println (session.farewell w)
      return 0
