import TaintGrep.Engine.Detector
import TaintGrep.Record.KnowledgeBase

/-!
Plugins and the engine that runs them. On a response a plugin contributes records to categories, and
at the end of a scan it lists what it has to report; the engine runs its plugins in the order of
their registration.
-/

namespace TaintGrep

structure Plugin.Metadata where
  name : String
  description : String
  longDescription : String
  deriving DecidableEq, Repr

structure Plugin where
  metadata : Plugin.Metadata
  grep : Response → List (String × Record)
  finish : KnowledgeBase → List Record
  events : Response → List Log.Event

namespace Plugin

def detectorMetadata : Metadata where
  name := "dom_xss"
  description := "Grep every page for traces of DOM XSS."
  longDescription :=
    "This plugin greps every page for traces of DOM XSS.\n\n" ++
    "Two configurable parameters exist:\n" ++
    "    - smart_grep: report sink calls whose arguments reference a\n" ++
    "      user controlled value (document.URL, window.location, ...)\n" ++
    "    - simple_grep: report every sink call, whatever its arguments\n\n" ++
    "An interesting paper about DOM XSS can be found here:\n" ++
    "    - http://www.webappsec.org/projects/articles/071105.shtml"

def ofDetector (d : Detector) : Plugin where
  metadata := detectorMetadata
  grep r := (d.records r).map fun record => (Detector.category, record)
  finish kb := kb.unique Detector.category d.uniqueness
  events := d.events

def seenRecord (r : Response) : Record :=
  Record.new "counting" "seen" r.url r.id

def counting : Plugin where
  metadata := ⟨"counting", "counts responses", ""⟩
  grep r := [("seen", seenRecord r)]
  finish kb := kb.get "seen"
  events _ := []

end Plugin

structure Engine where
  plugins : List Plugin

namespace Engine

def ofSettings (compiles : String → Bool) (s : Settings) : Except PatternError Engine :=
  match Detector.ofSettings compiles s with
  | .error e => .error e
  | .ok d => .ok ⟨[Plugin.ofDetector d]⟩

def register (e : Engine) (p : Plugin) : Engine :=
  ⟨e.plugins ++ [p]⟩

def names (e : Engine) : List String :=
  e.plugins.map fun p => p.metadata.name

def plugin? (e : Engine) (name : String) : Option Plugin :=
  e.plugins.find? fun p => p.metadata.name == name

def grep (e : Engine) (kb : KnowledgeBase) (r : Response) : KnowledgeBase :=
  kb.appendAll (e.plugins.flatMap fun p => p.grep r)

def finish (e : Engine) (kb : KnowledgeBase) : List Record :=
  e.plugins.flatMap fun p => p.finish kb

def events (e : Engine) (r : Response) : List Log.Event :=
  e.plugins.flatMap fun p => p.events r

end Engine

end TaintGrep
