import TaintGrep.Files.Tree
import TaintGrep.Log.Event
import TaintGrep.Text.Paint

/-!
What a command sees and what it leaves behind: the files, the console and the matchers it starts from,
the texts and log events it puts out in order, its exit code and the files after it.
-/

namespace TaintGrep.Command

open TaintGrep.Files TaintGrep.Text

structure Console where
  isTerminal : Bool := false
  noColor : Option String := none
  cliColor : Option String := none
  cliColorForce : Option String := none
  deriving DecidableEq, Repr

def Console.paints (c : Console) : Bool :=
  match c.cliColorForce with
  | some "0" | none => c.noColor.isNone && c.isTerminal && c.cliColor ≠ some "0"
  | some _ => true

structure Surroundings where
  files : Tree
  console : Console
  /-- Whether a matcher can be made of a sink name. -/
  compiles : String → Bool

inductive Output where
  | out (s : String)
  | err (s : String)
  | log (e : Log.Event)
  deriving DecidableEq, Repr

structure Outcome where
  outputs : List Output
  exit : Nat
  files : Tree

namespace Outcome

def ofOutputs (files : Tree) (outputs : List Output) : Outcome :=
  ⟨outputs, 0, files⟩

def failure (files : Tree) (outputs : List Output) (message : String) : Outcome :=
  ⟨outputs ++ [.err ("Error: " ++ message ++ "\n")], 1, files⟩

end Outcome

def warning (colour : Bool) (message : String) : Output :=
  .err ((Paint.strong .yellow).apply colour "warning:" ++ " " ++ message ++ "\n")

def stdout (outputs : List Output) : String :=
  String.join (outputs.map fun
    | .out s => s
    | _ => "")

def events (outputs : List Output) : List Log.Event :=
  outputs.filterMap fun
    | .log e => some e
    | _ => none

def stderr (line : Log.Event → String) (outputs : List Output) : String :=
  String.join (outputs.map fun
    | .err s => s
    | .log e => line e
    | .out _ => "")

end TaintGrep.Command
