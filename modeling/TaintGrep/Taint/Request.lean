import TaintGrep.Taint.Analyzer

/-!
Requests to a registry, one after the other: registrations, and looks at a text with the patterns that
are there.
-/

namespace TaintGrep

inductive Request : PatternKind → Type where
  | register {k : PatternKind} (s : String) : Request k
  | find (mode : ScanMode) (script : String) : Request .sink
  | sourcesIn (arguments : String) : Request .source

namespace Registry

inductive Answer where
  | added
  | refused (e : PatternError)
  | calls (cs : List (List Call))
  | sources (es : List String)
  deriving DecidableEq, Repr

section

variable (compiles : String → Bool)

def answer : {k : PatternKind} → Registry k → Request k → Answer
  | _, r, .register s =>
    match (r.register compiles s).1 with
    | .ok () => .added
    | .error e => .refused e
  | _, r, .find mode script => .calls (r.names.map fun sink => Call.find mode sink script)
  | _, r, .sourcesIn arguments => .sources (Analyzer.sourcesIn { sources := r } arguments)

variable {k : PatternKind}

def step (r : Registry k) : Request k → Registry k
  | .register s => (r.register compiles s).2
  | _ => r

@[simp] theorem step_register (r : Registry k) (s : String) :
    r.step compiles (.register s) = (r.register compiles s).2 := rfl

@[simp] theorem step_find (r : Registry .sink) (mode : ScanMode) (script : String) :
    r.step compiles (.find mode script) = r := rfl

@[simp] theorem step_sourcesIn (r : Registry .source) (arguments : String) :
    r.step compiles (.sourcesIn arguments) = r := rfl

def run (r : Registry k) (qs : List (Request k)) : Registry k :=
  qs.foldl (step compiles) r

def trace (r : Registry k) : List (Request k) → List (Answer × Registry k)
  | [] => []
  | q :: qs => (r.answer compiles q, r.step compiles q) :: (r.step compiles q).trace qs

end

end Registry

end TaintGrep
