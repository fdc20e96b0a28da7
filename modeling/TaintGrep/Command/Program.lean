import TaintGrep.Command.Check
import TaintGrep.Command.Setup

/-!
The whole program as a function: arguments and surroundings to texts, files and an exit code. The
time of log lines comes from outside.
-/

namespace TaintGrep.Command

open TaintGrep.Files TaintGrep.Text

structure Result where
  exit : Nat
  stdout : String
  stderr : String
  files : Tree

def versionText : String :=
  "domxss " ++ Report.version ++ "\n"

def helpText : String :=
  "Usage: domxss [OPTIONS] <COMMAND>\n\n" ++
  "Commands:\n" ++
  "  check     Grep saved pages for DOM XSS risks\n" ++
  "  init      Write a configuration file to start from\n" ++
  "  patterns  Show the sinks, sources and modes in effect\n\n" ++
  "Options:\n" ++
  "      --log-level <LEVEL>  trace, debug, info, warn or error\n" ++
  "      --log-file <FILE>    Write the log to a file\n" ++
  "      --log-json           Write the log as JSON\n" ++
  "  -h, --help               Print this help\n" ++
  "  -V, --version            Print the version\n"

def logFile (file : String) : Path × Name :=
  let p := Path.ofString file
  (p.parent?.getD (Path.ofString "."), p.fileName?.getD "domxss.log")

def appendLog (o : LogOptions) (text : String) (t : Tree) : Except Files.Fault Tree :=
  match o.file with
  | none => .ok t
  | some file =>
    let (dir, name) := logFile file
    t.appendFile dir name (Utf8.encode text)

def logLine (o : LogOptions) (time : String) (e : Log.Event) : String :=
  if e.isShownAt o.level then e.line o.json time else ""

def act (s : Surroundings) : Action → Outcome
  | .check o => Check.run s o
  | .init o => Init.run s o
  | .patterns dir => Patterns.run s dir

def runLogged (time : String) (s : Surroundings) (i : Invocation) : Result :=
  let outcome := act s i.action
  ⟨outcome.exit, stdout outcome.outputs, stderr (logLine i.log time) outcome.outputs,
    outcome.files⟩

/-- Log lines go to a file, which is made before the action is run. -/
def runWithLogFile (time : String) (s : Surroundings) (i : Invocation) : Result :=
  match appendLog i.log "" s.files with
  | .error f => ⟨101, "", "Error: " ++ f.message ++ "\n", s.files⟩
  | .ok files =>
    let outcome := act { s with files } i.action
    let text := String.join ((events outcome.outputs).map (logLine i.log time))
    ⟨outcome.exit, stdout outcome.outputs, stderr (fun _ => "") outcome.outputs,
      match appendLog i.log text outcome.files with
      | .ok files => files
      | .error _ => outcome.files⟩

def runInvocation (time : String) (s : Surroundings) (i : Invocation) : Result :=
  if i.log.file.isSome then runWithLogFile time s i else runLogged time s i

def run (time : String) (s : Surroundings) (args : List String) : Result :=
  match readArguments args with
  | .ok i => runInvocation time s i
  | .error .version => ⟨0, versionText, "", s.files⟩
  | .error .help => ⟨0, helpText, "", s.files⟩
  | .error .usage => ⟨2, "", helpText, s.files⟩

/-- The paths that a run looks at, those below the path of a check apart. -/
def Invocation.paths (i : Invocation) (cwd : Path) : List Path :=
  let log := i.log.file.toList.flatMap fun file =>
    let (dir, name) := logFile file
    dir.ancestors ++ [dir.join name]
  log ++ match i.action with
    | .check o => Path.ofString o.path :: Settings.places (Path.ofString o.path)
    | .init o =>
      let dir := (o.dir.map Path.ofString).getD cwd
      [dir, dir.join Settings.fileName]
    | .patterns dir => Settings.places ((dir.map Path.ofString).getD cwd)

end TaintGrep.Command
