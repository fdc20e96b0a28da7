import TaintGrep.Toml.Basic

/-!
Tables while a document is read. A draft remembers how each table came about, since a table may be
given a header once, may be extended by dotted keys only where dotted keys made it, and an inline
table not at all.
-/

namespace TaintGrep.Toml

/-- How a table came about: by a header of its own, as the parent of a header, or by dotted keys. -/
inductive Origin where
  | header
  | parent
  | dotted
  deriving DecidableEq, Repr

inductive Draft where
  | leaf (v : Value)
  | table (origin : Origin) (entries : List (String × Draft))
  | tables (elements : List Draft)

namespace Draft

def empty : Draft := .table .header []

def replace (k : String) (d : Draft) (es : List (String × Draft)) : List (String × Draft) :=
  es.map fun e => if e.1 = k then (k, d) else e

def remove (k : String) (es : List (String × Draft)) : List (String × Draft) :=
  es.filter fun e => e.1 ≠ k

/-- Changes the table at a path, making the tables on the way that are not there. Of an array of
tables the path goes through the last; dotted keys do not go through a table with a header. -/
def update (dotted : Bool) (f : Draft → Option Draft) : List String → Draft → Option Draft
  | [], d => f d
  | k :: ks, .table origin es =>
    match es.lookup k with
    | none =>
      (update dotted f ks (.table (if dotted then .dotted else .parent) [])).map fun d =>
        .table origin (es ++ [(k, d)])
    | some (.leaf _) => none
    | some (.tables ds) =>
      match ds.getLast? with
      | none => none
      | some last =>
        (update dotted f ks last).map fun d =>
          .table origin (replace k (.tables (ds.dropLast ++ [d])) es)
    | some (.table o fs) =>
      if dotted ∧ o = .header then none
      else (update dotted f ks (.table o fs)).map fun d => .table origin (replace k d es)
  | _ :: _, _ => none

/-- Opens a table. One that was only a parent so far moves to the end. -/
def openTable (path : List String) (k : String) : Draft → Option Draft :=
  update false (fun
    | .table origin es =>
      match es.lookup k with
      | none => some (.table origin (es ++ [(k, empty)]))
      | some (.table .parent fs) => some (.table origin (remove k es ++ [(k, .table .header fs)]))
      | some _ => none
    | _ => none) path

def openElement (path : List String) (k : String) : Draft → Option Draft :=
  update false (fun
    | .table origin es =>
      match es.lookup k with
      | none => some (.table origin (es ++ [(k, .tables [empty])]))
      | some (.tables ds) => some (.table origin (replace k (.tables (ds ++ [empty])) es))
      | some _ => none
    | _ => none) path

/-- Sets a key for the first time. A dotted key goes into a table that dotted keys made. -/
def assign (path : List String) (k : String) (v : Value) : Draft → Option Draft :=
  update true (fun
    | .table origin es =>
      if (origin = .dotted ↔ path = []) ∨ (es.lookup k).isSome then none
      else some (.table origin (es ++ [(k, .leaf v)]))
    | _ => none) path

mutual

def toValue : Draft → Value
  | .leaf v => v
  | .table _ es => .table (toEntries es)
  | .tables ds => .array (toValues ds)

def toEntries : List (String × Draft) → List (String × Value)
  | [] => []
  | (k, d) :: es => (k, toValue d) :: toEntries es

def toValues : List Draft → List Value
  | [] => []
  | d :: ds => toValue d :: toValues ds

end

def toTable : Draft → Table
  | .table _ es => toEntries es
  | _ => []

end Draft

end TaintGrep.Toml
