import TaintGrep.Record.Unique
import TaintGrep.Taint.Analyzer
import TaintGrep.Text.Quoted

/-!
The settings of a scan, the file extensions that count as pages, and settings on one line for the log.
-/

namespace TaintGrep

open TaintGrep.Text

structure Settings where
  extensions : List String := []
  patterns : Patterns := {}
  scripts : ScanMode := .first
  calls : ScanMode := .first
  smartGrep : Bool := true
  simpleGrep : Bool := false
  uniqueness : Uniqueness := .none
  deriving DecidableEq, Repr

namespace Settings

def defaultExtensions : List String :=
  ["html", "htm", "xhtml", "shtml"]

def pageExtensions (s : Settings) : List String :=
  match s.extensions with
  | [] => defaultExtensions
  | es => es.map fun e => asciiLower (String.ofList (e.toList.dropWhile (· == '.')))

def dumpList (l : List String) : String :=
  "[" ++ ", ".intercalate (l.map Quoted.quote) ++ "]"

def dumpOption : Option (List String) → String
  | none => "None"
  | some l => "Some(" ++ dumpList l ++ ")"

def dumpMode : ScanMode → String
  | .first => "First"
  | .all => "All"

def dumpUniqueness : Uniqueness → String
  | .none => "None"
  | .url => "Url"
  | .var => "Var"

def dumpBool (b : Bool) : String :=
  if b then "true" else "false"

def dumpFields (name : String) (fields : List (String × String)) : String :=
  name ++ " \x7b " ++ ", ".intercalate (fields.map fun (k, v) => k ++ ": " ++ v) ++ " \x7d"

def dump (s : Settings) : String :=
  dumpFields "Config"
    [("include", dumpList s.extensions),
      ("patterns", dumpFields "PatternsConfig"
        [("sinks", dumpOption s.patterns.sinks), ("sources", dumpOption s.patterns.sources),
          ("extra_sinks", dumpList s.patterns.extraSinks),
          ("extra_sources", dumpList s.patterns.extraSources)]),
      ("scan", dumpFields "ScanConfig"
        [("scripts", dumpMode s.scripts), ("calls", dumpMode s.calls),
          ("smart_grep", dumpBool s.smartGrep), ("simple_grep", dumpBool s.simpleGrep)]),
      ("report", dumpFields "ReportConfig" [("uniqueness", dumpUniqueness s.uniqueness)])]

end Settings

end TaintGrep
