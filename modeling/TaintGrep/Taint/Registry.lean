import TaintGrep.Text.Basic

/-!
Registries of sink names and source expressions. Patterns are trimmed and kept in the order of their
registration; an empty one, a sink name that no matcher can be made of, and one that is already there are
refused. Sink names count as equal up to ASCII case, sources only as they stand. Which names a matcher can
be made of is left open: `compiles` says it.
-/

namespace TaintGrep

open TaintGrep.Text

inductive PatternKind where
  | sink
  | source
  deriving DecidableEq, Repr

inductive PatternFault where
  | empty
  | notCompiled
  | listedTwice
  deriving DecidableEq, Repr

structure PatternError where
  kind : PatternKind
  pattern : String
  fault : PatternFault
  deriving DecidableEq, Repr

namespace PatternKind

def label : PatternKind → String
  | .sink => "sink"
  | .source => "source"

def same : PatternKind → String → String → Bool
  | .sink, s, t => sameAscii s t
  | .source, s, t => s == t

/-- Only sinks are looked for by a matcher, which has to be made of their name. -/
def isMatchable (compiles : String → Bool) : PatternKind → String → Bool
  | .sink, s => compiles s
  | .source, _ => true

def check (compiles : String → Bool) (k : PatternKind) (s : String) : Except PatternError String :=
  let name := trim s
  if name = "" then .error ⟨k, name, .empty⟩
  else if k.isMatchable compiles name then .ok name
  else .error ⟨k, name, .notCompiled⟩

end PatternKind

def PatternFault.message : PatternFault → String
  | .empty => "pattern is empty"
  | .notCompiled => "pattern does not compile"
  | .listedTwice => "pattern is listed twice"

def PatternError.message (e : PatternError) : String :=
  "Invalid " ++ e.kind.label ++ " pattern '" ++ e.pattern ++ "': " ++ e.fault.message

structure Registry (k : PatternKind) where
  names : List String
  deriving DecidableEq, Repr

namespace Registry

variable {k : PatternKind}

def empty : Registry k := ⟨[]⟩

def size (r : Registry k) : Nat := r.names.length

def isEmpty (r : Registry k) : Bool := r.names.isEmpty

variable (compiles : String → Bool)

/-- The registry comes back besides the result, also when the pattern is refused. -/
def register (r : Registry k) (s : String) : Except PatternError Unit × Registry k :=
  match k.check compiles s with
  | .error e => (.error e, r)
  | .ok name =>
    if r.names.any (k.same · name) then (.error ⟨k, name, .listedTwice⟩, r)
    else (.ok (), ⟨r.names ++ [name]⟩)

def registerAll (r : Registry k) : List String → Except PatternError (Registry k)
  | [] => .ok r
  | s :: ss =>
    match r.register compiles s with
    | (.error e, _) => .error e
    | (.ok (), r) => r.registerAll ss

def ofNames (names : List String) : Except PatternError (Registry k) :=
  empty.registerAll compiles names

def ofGiven (given : Option (List String)) (builtIn : Registry k) :
    Except PatternError (Registry k) :=
  match given with
  | some names => ofNames compiles names
  | none => .ok builtIn

def defaultSinks : Registry .sink :=
  ⟨["document.write", "document.writeln", "document.execCommand", "document.open", "window.open",
    "eval", "window.execScript"]⟩

def defaultSources : Registry .source :=
  ⟨["document.URL", "document.URLUnencoded", "document.location", "document.referrer",
    "window.location"]⟩

end Registry

end TaintGrep
