import DocStore.CommandLine.Run
import Std.Time.DateTime.Timestamp

/-!
# The program

Gathers the files that a command line names, runs it, and leaves the database file behind.
-/

namespace DocStore.CommandLine

def gather (path : String) : IO (List (String × String)) := do
  try return [(path, ← IO.FS.readFile path)]
  catch
    | .noFileOrDirectory .. => return []
    | e => throw e

def replaceFile (path text : String) : IO Unit := do
  let folder := (path.toList.reverse.dropWhile (· != '/')).reverse
  unless folder.isEmpty do IO.FS.createDirAll (String.ofList folder)
  let draft := path ++ ".draft"
  IO.FS.writeFile draft text
  IO.FS.rename draft path

def freshSource : IO Source := do
  let bytes ← IO.getRandomBytes 16
  let seed := bytes.toList.foldl (fun n b => 256 * n + b.toNat) 0
  let nanos := (← Std.Time.Timestamp.now).toNanosecondsSinceUnixEpoch.val
  let now : Instant := { seconds := nanos / Instant.billion, nanos := (nanos % Instant.billion).toNat }
  return Source.ofSeed seed now

/-- Runs the program on the files of the working directory; gives the exit code. -/
def perform (words : List String) : IO UInt32 := do
  let paths := match Invocation.ofWords words with
    | .ok i => i.db :: i.schema.toList
    | .error _ => []
  let files := (← paths.mapM gather).flatten
  let before := Directory.ofFiles files
  let done := run (← freshSource) before words
  if let path :: _ := paths then
    if let some text := done.directory.text? (Place.ofPath path) then
      unless before.text? (Place.ofPath path) == some text do replaceFile path text
  IO.print done.output
  if let some failure := done.failure then IO.eprint failure.message
  return done.exitCode.toUInt32

end DocStore.CommandLine

def main (words : List String) : IO UInt32 := do
  try DocStore.CommandLine.perform words
  catch e =>
    IO.eprintln s!"ERROR:IO error: {e}"
    return 1
