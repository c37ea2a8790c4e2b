import Std.Time.DateTime.Timestamp
import TokenInventory.CommandLine.Help
import TokenInventory.CommandLine.Program

/-!
# The command line program

Reads the files that an invocation names, carries it out, writes the store and shows the results and
the notes. All decisions are made by `CommandLine.conclude`; here it meets the system.
-/

namespace TokenInventory.CommandLine

/-- Takes an error of the system for one of a file. -/
def fileErrorOf : IO.Error → FileError
  | .noFileOrDirectory _ _ _ => .missing
  | e => .other e.toString

/-- Reads a file. -/
def readContent (path : String) : IO (Except FileError String) := do
  try
    return .ok (← IO.FS.readFile path)
  catch e =>
    return .error (fileErrorOf e)

/-- Reads files, each with its path. -/
def readContents (paths : List String) : IO (List (String × Except FileError String)) :=
  paths.mapM fun path => return (path, ← readContent path)

/-- What was read from the file at a path. -/
def contentAt (contents : List (String × Except FileError String)) (path : String) :
    Except FileError String :=
  (contents.lookup path).getD (.error .missing)

/-- The description of a time zone at the end of a zone file. -/
def zoneAtEnd (path : String) : IO (Option Zone) := do
  try
    let bytes ← IO.FS.readBinFile path
    let lastLine := ((bytes.toList.reverse.drop 1).takeWhile (· ≠ 10)).reverse
    return Zone.ofDescription? (lastLine.map fun b => Char.ofNat b.toNat)
  catch _ =>
    return none

/-- The local time zone. -/
def localZone : IO Zone := do
  match ← IO.getEnv "TZ" with
  | none => return (← zoneAtEnd "/etc/localtime").getD .universal
  | some description =>
    match Zone.ofDescription? description.toList with
    | some zone => return zone
    | none => return (← zoneAtEnd ("/usr/share/zoneinfo/" ++ description)).getD .universal

/-- The present instant. -/
def presentInstant : IO Instant := do
  let now ← Std.Time.Timestamp.now
  return { seconds := now.val.second.val, nanosecond := now.val.nano.val.toNat }

/-- Replaces a file by way of a temporary one; answers whether that worked. -/
def replaceFile (path content : String) : IO Bool := do
  try
    IO.FS.writeFile (path ++ ".tmp") content
    IO.FS.rename (path ++ ".tmp") path
    return true
  catch _ =>
    return false

/-- Carries an invocation out and writes the store. If the store cannot be written, no attempt to
write it would have succeeded. -/
def concludeAndWrite (around : Surroundings) (invocation : Invocation) : IO Conclusion := do
  let conclusion := conclude around invocation
  match conclusion.writtenStore? with
  | none => return conclusion
  | some (path, content) =>
    if ← replaceFile path content then return conclusion
    else return conclude { around with accepts := fun _ => false } invocation

/-- Carries an invocation out and shows what comes of it. -/
def runInvocation (invocation : Invocation) : IO UInt32 := do
  let now ← presentInstant
  let around : Surroundings :=
    { read := contentAt (← readContents invocation.config.toList)
      zone := ← localZone
      now
      entropy := .ofSeed (← IO.getRandomBytes 32).toList
      logVariable := ← IO.getEnv "RUST_LOG" }
  let contents ← readContents (pathsOf invocation (configOf around invocation))
  let conclusion ← concludeAndWrite { around with read := contentAt contents } invocation
  (← IO.getStdout).putStr conclusion.transcript.result
  for note in conclusion.shownNotes do
    (← IO.getStderr).putStr (noteText conclusion.logFormat now.timestamp note)
  return conclusion.exitCode.toUInt32

end TokenInventory.CommandLine

open TokenInventory.CommandLine in
/-- Runs the program. -/
def main (arguments : List String) : IO UInt32 := do
  match Invocation.ofArguments arguments with
  | .ok invocation => runInvocation invocation
  | .error stop =>
    match stop with
    | .informed => (← IO.getStdout).putStr helpText
    | .refused => (← IO.getStderr).putStr helpText
    return stop.exitCode.toUInt32
