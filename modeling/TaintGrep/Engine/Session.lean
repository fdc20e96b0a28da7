import TaintGrep.Engine.Plugin

/-!
Sessions: an engine and a knowledge base that live through a sequence of steps. Steps that only look
leave the session as it is.
-/

namespace TaintGrep

structure Session where
  engine : Engine
  base : KnowledgeBase

namespace Session

inductive Step where
  | grep (r : Response)
  | finish
  | append (category : String) (r : Record)
  | get (category : String)
  | unique (category : String) (u : Uniqueness)
  | size (category : String)
  | clear
  | registerCounting
  | plugins
  | plugin (name : String)

inductive Answer where
  | nothing
  | records (rs : List Record)
  | size (n : Nat)
  | names (ns : List String)
  | metadata (m : Option Plugin.Metadata)
  deriving DecidableEq, Repr

def ofSettings (compiles : String → Bool) (s : Settings) : Except PatternError Session :=
  match Engine.ofSettings compiles s with
  | .error e => .error e
  | .ok e => .ok ⟨e, KnowledgeBase.empty⟩

def step (s : Session) : Step → Session
  | .grep r => { s with base := s.engine.grep s.base r }
  | .append category r => { s with base := s.base.append category r }
  | .clear => { s with base := KnowledgeBase.empty }
  | .registerCounting => { s with engine := s.engine.register Plugin.counting }
  | _ => s

def answer (s : Session) : Step → Answer
  | .finish => .records (s.engine.finish s.base)
  | .get category => .records (s.base.get category)
  | .unique category u => .records (s.base.unique category u)
  | .size category => .size (s.base.size category)
  | .plugins => .names s.engine.names
  | .plugin name => .metadata ((s.engine.plugin? name).map Plugin.metadata)
  | _ => .nothing

def run (s : Session) (steps : List Step) : Session :=
  steps.foldl step s

def trace (s : Session) : List Step → List (Answer × Session)
  | [] => []
  | t :: ts => (s.answer t, s.step t) :: (s.step t).trace ts

end Session

end TaintGrep
