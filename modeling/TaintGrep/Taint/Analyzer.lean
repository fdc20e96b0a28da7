import TaintGrep.Page.Script
import TaintGrep.Taint.Call
import TaintGrep.Taint.Registry

/-!
Pairs sink calls with sources. A source taints a call when it occurs literally in its arguments;
values are not followed through variables.
-/

namespace TaintGrep

open TaintGrep.Text

/-- The patterns of a configuration: a list that is given replaces the built-in one, and the extra
lists come after. -/
structure Patterns where
  sinks : Option (List String) := none
  sources : Option (List String) := none
  extraSinks : List String := []
  extraSources : List String := []
  deriving DecidableEq, Repr

structure Analyzer where
  sinks : Registry .sink := Registry.defaultSinks
  sources : Registry .source := Registry.defaultSources
  calls : ScanMode := .first
  deriving DecidableEq, Repr

namespace Analyzer

def ofPatterns (compiles : String → Bool) (p : Patterns) (calls : ScanMode) :
    Except PatternError Analyzer := do
  let sinks ← Registry.ofGiven compiles p.sinks Registry.defaultSinks
  let sinks ← sinks.registerAll compiles p.extraSinks
  let sources ← Registry.ofGiven compiles p.sources Registry.defaultSources
  let sources ← sources.registerAll compiles p.extraSources
  return ⟨sinks, sources, calls⟩

def sinkCalls (a : Analyzer) (r : Region) : List Call :=
  a.sinks.names.flatMap fun sink => Call.find a.calls sink r.text

def sourcesIn (a : Analyzer) (arguments : String) : List String :=
  a.sources.names.filter (occursIn · arguments)

/-- A call starts at a character, so its line always exists. -/
def callLine (r : Region) (c : Call) : Nat :=
  (r.lineAt? c.offset).getD r.line

def finding (r : Region) (c : Call) : Option String → Finding
  | some source => .tainted c.sink source c.arguments c.text (callLine r c)
  | none => .riskyCall c.sink c.arguments c.text (callLine r c)

@[simp] theorem finding_sink (r : Region) (c : Call) (source : Option String) :
    (finding r c source).sink = c.sink := by
  cases source <;> rfl

@[simp] theorem finding_source (r : Region) (c : Call) (source : Option String) :
    (finding r c source).source = source := by
  cases source <;> rfl

@[simp] theorem finding_call (r : Region) (c : Call) (source : Option String) :
    (finding r c source).call = c.text := by
  cases source <;> rfl

@[simp] theorem finding_line (r : Region) (c : Call) (source : Option String) :
    (finding r c source).line = callLine r c := by
  cases source <;> rfl

def tainted (a : Analyzer) (r : Region) : List Finding :=
  (a.sinkCalls r).flatMap fun c => (a.sourcesIn c.arguments).map fun e => finding r c (some e)

def risky (a : Analyzer) (r : Region) : List Finding :=
  (a.sinkCalls r).map fun c => finding r c none

def taintedIn (a : Analyzer) (script : String) : List Finding :=
  a.tainted ⟨script, 0, 1⟩

end Analyzer

end TaintGrep
