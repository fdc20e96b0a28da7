import Std.Time.DateTime.Timestamp
import TaintGrep.Command.Program
import TaintGrep.Log.Event

/-!
The command line. What a run can look at is read into a tree, the run itself is a function, and the
files that it changes are written back. When a directory is checked, the paths of the files below it
are read from standard input, one on each line.
-/

namespace TaintGrep.Main

open TaintGrep.Files

def look (t : Tree) (p : Path) : IO Tree := do
  try
    return t.addFile p (← IO.FS.readBinFile p.text).toList
  catch
    | .inappropriateType _ 21 _ => return t.addDir p
    | _ => return t

def listedPaths : IO (List Path) := do
  let listing ← (← IO.getStdin).readToEnd
  return ((listing.splitOn "\n").filter (· ≠ "")).map Path.ofString

def picture (args : List String) : IO Tree := do
  let cwd := Path.ofString (toString (← IO.currentDir))
  let start := Tree.addDir ⟨.dir [], cwd.pieces⟩ cwd
  match Command.readArguments args with
  | .error _ => return start
  | .ok i =>
    let t ← (i.paths cwd).foldlM look start
    match i.action with
    | .check o =>
      match t.resolve (Path.ofString o.path) with
      | .ok (_, .dir _) => (← listedPaths).foldlM look t
      | _ => return t
    | _ => return t

/-- Longer sink names are not searched for. -/
def maxNameLength : Nat := 65536

def console : IO Command.Console :=
  return ⟨← (← IO.getStdout).isTty, ← IO.getEnv "NO_COLOR", ← IO.getEnv "CLICOLOR",
    ← IO.getEnv "CLICOLOR_FORCE"⟩

def writeBack (names : List Name) (bytes : List UInt8) : IO Unit := do
  IO.FS.createDirAll (Path.ofNames names.dropLast).text
  IO.FS.writeBinFile (Path.ofNames names).text ⟨bytes.toArray⟩

def time : IO String := do
  let now ← Std.Time.Timestamp.now
  return Log.stamp (now.toNanosecondsSinceUnixEpoch.val.toNat / 1000)

end TaintGrep.Main

def main (args : List String) : IO UInt32 := do
  let files ← TaintGrep.Main.picture args
  let console ← TaintGrep.Main.console
  let result := TaintGrep.Command.run (← TaintGrep.Main.time)
    ⟨files, console, fun name => name.length ≤ TaintGrep.Main.maxNameLength⟩ args
  for (names, bytes) in files.changes result.files do
    TaintGrep.Main.writeBack names bytes
  IO.print result.stdout
  IO.eprint result.stderr
  return result.exit.toUInt32
