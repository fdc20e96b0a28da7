import TaintGrep.Toml.Draft
import TaintGrep.Toml.Scalar

/-!
TOML documents: values with their arrays and inline tables, the statements of a document, and the
table that the statements describe.
-/

namespace TaintGrep.Toml

open Reader

def elements (v : Reader Value) : Nat → Reader (List Value)
  | 0 => failure
  | n + 1 => do
    gap
    (do char ']'; pure []) <|> do
      let x ← v
      gap
      (do char ']'; pure [x]) <|> do
        char ','
        let xs ← elements v n
        pure (x :: xs)

def assignment (v : Reader Value) : Reader (List String × String × Value) := do
  let (path, k) ← key
  char '='
  spaces
  let x ← v
  spaces
  pure (path, k, x)

def assignments (v : Reader Value) (d : Draft) : Nat → Reader Draft
  | 0 => failure
  | n + 1 => do
    let (path, k, x) ← assignment v
    match d.assign path k x with
    | none => failure
    | some d => (do char '}'; pure d) <|> do char ','; assignments v d n

def inlineTable (v : Reader Value) : Reader Value := do
  char '{'
  spaces
  (do char '}'; pure (.table [])) <|> do
    let d ← assignments v Draft.empty (← left)
    pure d.toValue

def array (v : Reader Value) : Reader Value := do
  char '['
  pure (.array (← elements v (← left)))

def scalar : Reader Value := do
  match ← peek? with
  | some '"' | some '\'' => pure (.string (← string))
  | some 't' => do word "true".toList; pure (.boolean true)
  | some 'f' => do word "false".toList; pure (.boolean false)
  | _ => datetime <|> float <|> integer

/-- A value, with arrays and inline tables at most `depth` deep. -/
def value : Nat → Reader Value
  | 0 => scalar
  | depth + 1 => do
    match ← peek? with
    | some '[' => array (value depth)
    | some '{' => inlineTable (value depth)
    | _ => scalar

inductive Statement where
  | table (path : List String) (k : String)
  | element (path : List String) (k : String)
  | assign (path : List String) (k : String) (v : Value)

def header : Reader Statement :=
  (do
    word ['[', '[']
    let (path, k) ← key
    word [']', ']']
    pure (.element path k)) <|>
  do
    char '['
    let (path, k) ← key
    char ']'
    pure (.table path k)

def line : Reader (List Statement) := do
  spaces
  match ← peek? with
  | some '[' => do
    let s ← header
    lineEnd
    pure [s]
  | some '#' | some '\n' | some '\r' => do
    lineEnd
    pure []
  | _ => do
    let (path, k, v) ← assignment (value nesting)
    lineEnd
    pure [.assign path k v]

def statementsWithin : Nat → Reader (List Statement)
  | 0 => atEnd *> pure []
  | n + 1 => (spaces *> atEnd *> pure []) <|> do
    let s ← line
    let ss ← statementsWithin n
    pure (s ++ ss)

/-- The statements of a document, which may begin with a byte order mark. -/
def statements (cs : List Char) : Option (List Statement) :=
  let cs := match cs with
    | c :: rest => if c.toNat = 0xFEFF then rest else c :: rest
    | [] => []
  (statementsWithin cs.length cs).map Prod.fst

def Draft.apply (d : Draft) (current : List String) : List Statement → Option Draft
  | [] => some d
  | .table path k :: ss => do (← d.openTable path k).apply (path ++ [k]) ss
  | .element path k :: ss => do (← d.openElement path k).apply (path ++ [k]) ss
  | .assign path k v :: ss => do (← d.update false (Draft.assign path k v) current).apply current ss

def parse? (s : String) : Option Table := do
  let d ← Draft.empty.apply [] (← statements s.toList)
  return d.toTable

end TaintGrep.Toml
