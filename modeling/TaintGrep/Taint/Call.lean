import TaintGrep.Text.Basic
import TaintGrep.Text.Folding
import TaintGrep.Text.Scan

/-!
Calls of a function in a script, by their spelling: the name up to case folding, spaces, `(`, the
arguments and `)`. The arguments end at the first `)` and stay on one line, so a nested call cuts
them short.
-/

namespace TaintGrep

open TaintGrep.Text

namespace Call

structure Spelling where
  name : List Char
  gap : List Char
  arguments : List Char
  deriving DecidableEq, Repr

namespace Spelling

def chars (s : Spelling) : List Char :=
  s.name ++ s.gap ++ '(' :: (s.arguments ++ [')'])

def size (s : Spelling) : Nat :=
  s.chars.length

end Spelling

def isArgument (c : Char) : Bool :=
  c ≠ ')' && c ≠ '\n'

def spelling? (name cs : List Char) : Option Spelling :=
  match takeFolded? name cs with
  | none => none
  | some (spelled, cs) =>
    match cs.dropWhile (· == ' ') with
    | '(' :: ds =>
      match ds.dropWhile isArgument with
      | ')' :: _ => some ⟨spelled, cs.takeWhile (· == ' '), ds.takeWhile isArgument⟩
      | _ => none
    | _ => none

theorem spelling?_eq_some {name cs : List Char} {s : Spelling} (h : spelling? name cs = some s) :
    (∃ rest, cs = s.chars ++ rest) ∧ s.name.map fold = name.map fold ∧
      (∀ c ∈ s.gap, c = ' ') ∧ ∀ c ∈ s.arguments, isArgument c = true := by
  unfold spelling? at h
  split at h
  · simp at h
  · rename_i spelled ds ht
    obtain ⟨rfl, hf⟩ := takeFolded?_eq_some ht
    split at h
    · rename_i es hg
      split at h
      · rename_i rest hr
        obtain rfl := Option.some.inj h
        have hd := eq_append_cons_of_dropWhile hg
        have he := eq_append_cons_of_dropWhile hr
        refine ⟨⟨rest, ?_⟩, hf, fun c hc => by simpa using of_mem_takeWhile hc,
          fun c hc => of_mem_takeWhile hc⟩
        simp only [Spelling.chars, List.append_assoc, List.cons_append, List.nil_append]
        rw [← he, ← hd]
      · simp at h
    · simp at h

theorem spelling?_append {name : List Char} {s : Spelling} (rest : List Char)
    (hn : s.name.map fold = name.map fold) (hg : ∀ c ∈ s.gap, c = ' ')
    (ha : ∀ c ∈ s.arguments, isArgument c = true) :
    spelling? name (s.chars ++ rest) = some s := by
  have hg' : ∀ c ∈ s.gap, (c == ' ') = true := fun c hc => by simp [hg c hc]
  have hc : s.chars ++ rest = s.name ++ (s.gap ++ '(' :: (s.arguments ++ ')' :: rest)) := by
    simp [Spelling.chars]
  rw [hc, spelling?, takeFolded?_append _ hn]
  simp only [dropWhile_append_cons _ hg' (by decide : ('(' == ' ') = false),
    takeWhile_append_cons _ hg' (by decide : ('(' == ' ') = false),
    dropWhile_append_cons _ ha (by decide : isArgument ')' = false),
    takeWhile_append_cons _ ha (by decide : isArgument ')' = false)]

end Call

/-- A call of a sink: the name as registered, and the arguments, the whole text and the byte offset
as found in the script. -/
structure Call where
  sink : String
  arguments : String
  text : String
  offset : Nat
  deriving DecidableEq, Repr

namespace Call

def ofSpelling (sink : String) (p : Place) (s : Spelling) : Call :=
  ⟨sink, String.ofList s.arguments, String.ofList s.chars, p.offset⟩

def find (mode : ScanMode) (sink script : String) : List Call :=
  mode.keep ((scan (spelling? sink.toList) Spelling.size script.toList).map fun (p, s) =>
    ofSpelling sink p s)

end Call

/-- How a finding was made: a source in the arguments of a call, or a call whatever its arguments. -/
inductive Finding.Kind where
  | taintedSink
  | riskyCall
  deriving DecidableEq, Repr

structure Finding where
  kind : Finding.Kind
  sink : String
  source : Option String
  arguments : String
  call : String
  line : Nat
  tainted_iff : kind = .taintedSink ↔ source.isSome = true
  deriving DecidableEq, Repr

namespace Finding

def tainted (sink source arguments call : String) (line : Nat) : Finding :=
  ⟨.taintedSink, sink, some source, arguments, call, line, by simp⟩

def riskyCall (sink arguments call : String) (line : Nat) : Finding :=
  ⟨.riskyCall, sink, none, arguments, call, line, by simp⟩

@[elab_as_elim, cases_eliminator]
theorem ofKinds {motive : Finding → Prop}
    (tainted : ∀ sink source arguments call line, motive (.tainted sink source arguments call line))
    (riskyCall : ∀ sink arguments call line, motive (.riskyCall sink arguments call line))
    (f : Finding) : motive f := by
  obtain ⟨kind, sink, source, arguments, call, line, h⟩ := f
  match kind, source, h with
  | .taintedSink, some source, _ => exact tainted sink source arguments call line
  | .riskyCall, none, _ => exact riskyCall sink arguments call line
  | .taintedSink, none, h => simp at h
  | .riskyCall, some _, h => simp at h

theorem riskyCall_iff (f : Finding) : f.kind = .riskyCall ↔ f.source = none := by
  cases f <;> simp [tainted, riskyCall]

def highlight (f : Finding) : String :=
  f.source.getD f.call

end Finding

end TaintGrep
