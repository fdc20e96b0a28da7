import TaintGrep.Log.Event
import TaintGrep.Page.Response
import TaintGrep.Settings.Basic

/-!
The detector of DOM based cross site scripting. Smart grep reports sink calls that a source taints,
simple grep every sink call; each can be switched on or off.
-/

namespace TaintGrep

structure Detector where
  scripts : ScanMode := .first
  analyzer : Analyzer := {}
  smart : Bool := true
  simple : Bool := false
  uniqueness : Uniqueness := .none
  deriving DecidableEq, Repr

namespace Detector

def category : String := "dom_xss"

def ofSettings (compiles : String → Bool) (s : Settings) : Except PatternError Detector :=
  match Analyzer.ofPatterns compiles s.patterns s.calls with
  | .error e => .error e
  | .ok a => .ok ⟨s.scripts, a, s.smartGrep, s.simpleGrep, s.uniqueness⟩

def smartGrep (d : Detector) (body : String) : List Finding :=
  (Script.regions d.scripts body).flatMap d.analyzer.tainted

def simpleGrep (d : Detector) (body : String) : List Finding :=
  (Script.regions d.scripts body).flatMap d.analyzer.risky

def findings (d : Detector) (body : String) : List Finding :=
  (if d.smart then d.smartGrep body else []) ++ (if d.simple then d.simpleGrep body else [])

def records (d : Detector) (r : Response) : List Record :=
  if r.isTextual then
    match r.text with
    | .ok body => (d.findings body).map (Record.ofFinding r.url r.id)
    | .error _ => []
  else
    []

def callEvent (c : Call) : Log.Event :=
  ⟨.trace, "domxss_core::taint", "sink call",
    [("sink", .quoted c.sink), ("arguments", .quoted c.arguments)]⟩

def events (d : Detector) (r : Response) : List Log.Event :=
  let target := "domxss_core::plugins::dom_xss"
  if r.isTextual then
    match r.text with
    | .ok body =>
      (if d.smart then
        (Script.regions d.scripts body).flatMap fun s => (d.analyzer.sinkCalls s).map callEvent
      else
        []) ++
        [⟨.debug, target, "grep finished",
          [("url", .quoted r.url), ("id", .number r.id),
            ("findings", .number (d.findings body).length)]⟩]
    | .error e =>
      [⟨.warn, target, "skipping undecodable response",
        [("url", .quoted r.url), ("error", .plain e.message)]⟩]
  else
    [⟨.debug, target, "skipping non text response", [("url", .quoted r.url)]⟩]

end Detector

end TaintGrep
