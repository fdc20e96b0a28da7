import TaintGrep.Number.Double

/-!
TOML values, and readers of them. Tables keep their keys in document order; dates and times are kept as
text. A reader takes characters off the front of a text or fails, and then has taken nothing; repetition
is bounded by the length of the text that is left, and each turn takes something off it.
-/

namespace TaintGrep.Toml

inductive Value where
  | string (s : String)
  | integer (n : Int)
  | float (x : Number.Double)
  | boolean (b : Bool)
  | datetime (text : String)
  | array (elements : List Value)
  | table (entries : List (String × Value))
  deriving Repr

abbrev Table := List (String × Value)

abbrev Reader (α : Type) := StateT (List Char) Option α

namespace Reader

variable {α : Type}

def peek? : Reader (Option Char) := fun cs => some (cs.head?, cs)

def left : Reader Nat := fun cs => some (cs.length, cs)

def satisfy (p : Char → Bool) : Reader Char
  | [] => none
  | c :: cs => if p c then some (c, cs) else none

def char (c : Char) : Reader Unit := do
  let _ ← satisfy (· == c)

def word (w : List Char) : Reader Unit := fun cs =>
  if w.isPrefixOf cs then some ((), cs.drop w.length) else none

def run (p : Char → Bool) : Reader (List Char) := fun cs => some (cs.span p)

def run1 (p : Char → Bool) : Reader (List Char) := do
  let ds ← run p
  if ds.isEmpty then failure else pure ds

def manyWithin (r : Reader α) : Nat → Reader (List α)
  | 0 => pure []
  | n + 1 => (do let a ← r; let as ← manyWithin r n; pure (a :: as)) <|> pure []

def many (r : Reader α) : Reader (List α) := do
  manyWithin r (← left)

def taken (r : Reader α) : Reader (List Char) := fun cs =>
  match r cs with
  | some (_, rest) => some (cs.take (cs.length - rest.length), rest)
  | none => none

def atEnd : Reader Unit
  | [] => some ((), [])
  | _ => none

end Reader

end TaintGrep.Toml
