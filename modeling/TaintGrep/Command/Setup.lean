import TaintGrep.Command.Arguments
import TaintGrep.Command.Outcome
import TaintGrep.Engine.Plugin
import TaintGrep.Settings.Load

/-!
The command that writes a settings file to start from, and the one that shows the sinks, sources and
modes in effect.
-/

namespace TaintGrep.Command.Init

open TaintGrep.Files TaintGrep.Text

def template : String :=
  "# domxss configuration file\n" ++
  "\n" ++
  "# Page extensions picked up when a directory is scanned\n" ++
  "# include = [\"html\", \"htm\", \"xhtml\", \"shtml\"]\n" ++
  "\n" ++
  "[patterns]\n" ++
  "# Replace the built-in sink list\n" ++
  "# sinks = [\"document.write\", \"document.writeln\", \"document.execCommand\", " ++
  "\"document.open\", \"window.open\", \"eval\", \"window.execScript\"]\n" ++
  "\n" ++
  "# Replace the built-in source list\n" ++
  "# sources = [\"document.URL\", \"document.URLUnencoded\", \"document.location\", " ++
  "\"document.referrer\", \"window.location\"]\n" ++
  "\n" ++
  "# Add to the lists in effect\n" ++
  "# extra_sinks = [\"setTimeout\"]\n" ++
  "# extra_sources = [\"location.hash\"]\n" ++
  "\n" ++
  "[scan]\n" ++
  "# \"first\" or \"all\" script blocks per page\n" ++
  "scripts = \"first\"\n" ++
  "\n" ++
  "# \"first\" or \"all\" calls per sink inside a script block\n" ++
  "calls = \"first\"\n" ++
  "\n" ++
  "# Report sinks fed by a known source\n" ++
  "smart_grep = true\n" ++
  "\n" ++
  "# Also report every sink call as informational\n" ++
  "simple_grep = false\n" ++
  "\n" ++
  "[report]\n" ++
  "# Collapse repeated findings: \"none\", \"url\" or \"var\"\n" ++
  "uniqueness = \"none\"\n"

def run (s : Surroundings) (o : InitOptions) : Outcome :=
  let dir := (o.dir.map Path.ofString).getD s.files.cwdPath
  let path := dir.join Settings.fileName
  if s.files.exists? path && !o.force then
    .failure s.files []
      ("Config file '" ++ path.text ++ "' already exists. Use --force to overwrite.")
  else
    match s.files.write path (Utf8.encode template) with
    | .error f => .failure s.files [] f.message
    | .ok files =>
      let colour := s.console.paints
      .ofOutputs files [.out ((Paint.strong .green).apply colour "✓" ++ " Created " ++
        (Paint.plain .cyan).apply colour Settings.fileName.lossy ++ " configuration file\n")]

end TaintGrep.Command.Init

namespace TaintGrep.Command.Patterns

open TaintGrep.Files TaintGrep.Text

def heading (colour : Bool) (label : String) (count : Nat) : String :=
  "  " ++ (Paint.plain .cyan).apply colour label ++ " (" ++ toString count ++ "):"

def property (colour : Bool) (label value : String) : String :=
  "  " ++ (Paint.plain .cyan).apply colour label ++ ": " ++ value

def switch (colour : Bool) (on : Bool) : String :=
  if on then (Paint.plain .green).apply colour "enabled"
  else (Paint.plain .red).apply colour "disabled"

def describe (colour : Bool) (d : Detector) : List String :=
  let m := Plugin.detectorMetadata
  let sinks := d.analyzer.sinks
  let sources := d.analyzer.sources
  ["", Paint.bold.apply colour m.name, "  " ++ m.description, "",
    heading colour "Sinks" sinks.size] ++ sinks.names.map ("    " ++ ·) ++
    ["", heading colour "Sources" sources.size] ++ sources.names.map ("    " ++ ·) ++
    ["", property colour "Script blocks" d.scripts.label,
      property colour "Calls per sink" d.analyzer.calls.label,
      property colour "Smart grep" (switch colour d.smart),
      property colour "Simple grep" (switch colour d.simple), ""]

def run (s : Surroundings) (dir : Option String) : Outcome :=
  let start := (dir.map Path.ofString).getD s.files.cwdPath
  let loaded := Settings.nearest s.files start
  let colour := s.console.paints
  let outputs := loaded.warnings.map fun w => warning colour w.message
  match Detector.ofSettings s.compiles loaded.settings with
  | .error e => .failure s.files outputs e.message
  | .ok d =>
    .ofOutputs s.files (outputs ++ [.out (String.join ((describe colour d).map (· ++ "\n")))])

end TaintGrep.Command.Patterns
