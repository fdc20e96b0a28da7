import TaintGrep.Taint.Call

/-!
Records: what is reported about a page. A record is made empty and filled in by edits; its highlight
list never holds a snippet twice.
-/

namespace TaintGrep

inductive Severity where
  | information
  | low
  | medium
  | high
  deriving DecidableEq, Repr, Inhabited

namespace Severity

def label : Severity → String
  | .information => "information"
  | .low => "low"
  | .medium => "medium"
  | .high => "high"

def rank : Severity → Nat
  | .information => 0
  | .low => 1
  | .medium => 2
  | .high => 3

def sort (l : List Severity) : List Severity :=
  l.mergeSort fun a b => a.rank ≤ b.rank

def max? (l : List Severity) : Option Severity :=
  (sort l).getLast?

end Severity

structure Record where
  plugin : String
  title : String
  url : String
  responseId : Nat
  severity : Severity := .low
  highlight : List String := []
  description : String := ""
  sink : String := ""
  source : Option String := none
  line : Nat := 0
  deriving DecidableEq, Repr

namespace Record

def new (plugin title url : String) (responseId : Nat) : Record :=
  { plugin, title, url, responseId }

def withSeverity (r : Record) (s : Severity) : Record :=
  { r with severity := s }

def withDescription (r : Record) (d : String) : Record :=
  { r with description := d }

def addHighlight (r : Record) (snippet : String) : Record :=
  if snippet ∈ r.highlight then r else { r with highlight := r.highlight ++ [snippet] }

def withFinding (r : Record) (f : Finding) : Record :=
  { r.addHighlight f.highlight with sink := f.sink, source := f.source, line := f.line }

def detectorName : String := "dom_xss"

def ofFinding (url : String) (responseId : Nat) (f : Finding) : Record :=
  match f.kind with
  | .taintedSink =>
    ((new detectorName "DOM Cross site scripting (Risky JavaScript Code)" url responseId
      |>.withSeverity .low)
      |>.withDescription ("The URL: \"" ++ url ++
        "\" has a DOM XSS (Risky JavaScript Code) bug using: \"" ++ f.highlight ++ "\"."))
      |>.withFinding f
  | .riskyCall =>
    ((new detectorName "DOM Cross site scripting (Risky JavaScript Function)" url responseId
      |>.withSeverity .information)
      |>.withDescription ("The URL: \"" ++ url ++ "\" calls the risky JavaScript function \"" ++
        f.sink ++ "\": \"" ++ f.highlight ++ "\"."))
      |>.withFinding f

inductive Edit where
  | severity (s : Severity)
  | description (d : String)
  | highlight (snippet : String)
  | finding (f : Finding)
  | rebuild (f : Finding)
  deriving DecidableEq, Repr

/-- Rebuilding keeps only the page and the number of the response. -/
def edit (r : Record) : Edit → Record
  | .severity s => r.withSeverity s
  | .description d => r.withDescription d
  | .highlight snippet => r.addHighlight snippet
  | .finding f => r.withFinding f
  | .rebuild f => ofFinding r.url r.responseId f

def history (r : Record) : List Edit → List Record
  | [] => [r]
  | e :: es => r :: (r.edit e).history es

end Record

end TaintGrep
