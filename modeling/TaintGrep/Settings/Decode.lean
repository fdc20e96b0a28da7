import TaintGrep.Settings.Basic
import TaintGrep.Text.Quoted
import TaintGrep.Toml.Scalar

/-!
Settings from a TOML table. Keys are read in document order and the first wrong value is reported;
unknown keys are passed over, whatever their value. A section is a table, or an array with the
values of its keys in their order.
-/

namespace TaintGrep

open TaintGrep.Text TaintGrep.Toml

namespace Settings

inductive Shape where
  | sequence
  | string
  | boolean
  | group (label : String)
  deriving DecidableEq, Repr

def Shape.label : Shape → String
  | .sequence => "a sequence"
  | .string => "a string"
  | .boolean => "a boolean"
  | .group label => "struct " ++ label

/-- Why a table gives no settings. A choice is one of a few names, written as a string or as a table
whose only key is the name. -/
inductive Fault where
  | invalidType (found : Value) (expected : Shape)
  | unknownChoice (name : String) (known : List String)
  | notChoice
  | notOneChoice
  | choiceWithContent
  deriving Repr

def describe : Value → String
  | .string s => "string " ++ Quoted.quote s
  | .integer n => "integer `" ++ toString n ++ "`"
  | .float x => "floating point `" ++ x.text ++ "`"
  | .boolean b => "boolean `" ++ (if b then "true" else "false") ++ "`"
  | .array _ => "sequence"
  | .datetime _ | .table _ => "map"

def listChoices : List String → String
  | [a, b] => "`" ++ a ++ "` or `" ++ b ++ "`"
  | names => "one of " ++ ", ".intercalate (names.map fun n => "`" ++ n ++ "`")

def Fault.message : Fault → String
  | .invalidType found expected =>
    "invalid type: " ++ describe found ++ ", expected " ++ expected.label
  | .unknownChoice name known =>
    "unknown variant `" ++ name ++ "`, expected " ++ listChoices known
  | .notChoice => "wanted string or table"
  | .notOneChoice => "wanted exactly 1 element"
  | .choiceWithContent => "expected empty table"

def string : Value → Except Fault String
  | .string s => .ok s
  | v => .error (.invalidType v .string)

def boolean : Value → Except Fault Bool
  | .boolean b => .ok b
  | v => .error (.invalidType v .boolean)

def strings : Value → Except Fault (List String)
  | .array vs => vs.mapM string
  | v => .error (.invalidType v .sequence)

def named {α : Type} (choices : List (String × α)) (name : String) : Except Fault α :=
  match choices.lookup name with
  | some a => .ok a
  | none => .error (.unknownChoice name (choices.map Prod.fst))

def choice {α : Type} (choices : List (String × α)) : Value → Except Fault α
  | .string s => named choices s
  | .table [(name, content)] =>
    match named choices name with
    | .error e => .error e
    | .ok a =>
      match content with
      | .table [] | .array [] => .ok a
      | _ => .error .choiceWithContent
  | .table _ => .error .notOneChoice
  | _ => .error .notChoice

def scanMode : Value → Except Fault ScanMode :=
  choice ([ScanMode.first, .all].map fun m => (m.label, m))

def uniquenessMode : Value → Except Fault Uniqueness :=
  choice ([Uniqueness.none, .url, .var].map fun u => (u.label, u))

structure Group where
  name : String
  label : String
  keys : List String
  set : String → Value → Settings → Except Fault Settings

def setPattern (key : String) (v : Value) (s : Settings) : Except Fault Settings :=
  match key with
  | "sinks" => return { s with patterns := { s.patterns with sinks := some (← strings v) } }
  | "sources" => return { s with patterns := { s.patterns with sources := some (← strings v) } }
  | "extra_sinks" => return { s with patterns := { s.patterns with extraSinks := ← strings v } }
  | "extra_sources" => return { s with patterns := { s.patterns with extraSources := ← strings v } }
  | _ => return s

def patternsGroup : Group :=
  ⟨"patterns", "PatternsConfig", ["sinks", "sources", "extra_sinks", "extra_sources"], setPattern⟩

def setScan (key : String) (v : Value) (s : Settings) : Except Fault Settings :=
  match key with
  | "scripts" => return { s with scripts := ← scanMode v }
  | "calls" => return { s with calls := ← scanMode v }
  | "smart_grep" => return { s with smartGrep := ← boolean v }
  | "simple_grep" => return { s with simpleGrep := ← boolean v }
  | _ => return s

def scanGroup : Group :=
  ⟨"scan", "ScanConfig", ["scripts", "calls", "smart_grep", "simple_grep"], setScan⟩

def setReport (key : String) (v : Value) (s : Settings) : Except Fault Settings :=
  match key with
  | "uniqueness" => return { s with uniqueness := ← uniquenessMode v }
  | _ => return s

def reportGroup : Group :=
  ⟨"report", "ReportConfig", ["uniqueness"], setReport⟩

def groups : List Group :=
  [patternsGroup, scanGroup, reportGroup]

def Group.setAll (g : Group) (s : Settings) : List (String × Value) → Except Fault Settings
  | [] => .ok s
  | (k, v) :: es =>
    match g.set k v s with
    | .error e => .error e
    | .ok s => g.setAll s es

/-- Reads a section; a date in its place has no known keys. -/
def Group.read (g : Group) (v : Value) (s : Settings) : Except Fault Settings :=
  match v with
  | .table es => g.setAll s es
  | .array vs => g.setAll s (g.keys.zip vs)
  | .datetime _ => .ok s
  | v => .error (.invalidType v (.group g.label))

def set (key : String) (v : Value) (s : Settings) : Except Fault Settings :=
  if key = "include" then
    match strings v with
    | .ok es => .ok { s with extensions := es }
    | .error e => .error e
  else
    match groups.find? fun g => g.name == key with
    | some g => g.read v s
    | none => .ok s

def ofEntries (s : Settings) : Table → Except Fault Settings
  | [] => .ok s
  | (k, v) :: es =>
    match set k v s with
    | .error e => .error e
    | .ok s => s.ofEntries es

def ofTable (t : Table) : Except Fault Settings :=
  ofEntries {} t

def topKeys : List String :=
  "include" :: groups.map Group.name

structure UnknownKey where
  group : Option String
  key : String
  deriving DecidableEq, Repr

def UnknownKey.message : UnknownKey → String
  | ⟨none, k⟩ => "Unknown config option: '" ++ k ++ "'"
  | ⟨some g, k⟩ => "Unknown config option in [" ++ g ++ "]: '" ++ k ++ "'"

def unknownIn (known : List String) (t : Table) : List String :=
  ((t.map Prod.fst).filter fun k => k ∉ known).mergeSort fun a b => a ≤ b

def unknownKeys (t : Table) : List UnknownKey :=
  (unknownIn topKeys t).map (⟨none, ·⟩) ++ groups.flatMap fun g =>
    match t.lookup g.name with
    | some (.table es) => (unknownIn g.keys es).map (⟨some g.name, ·⟩)
    | _ => []

/-- The unknown keys that are reported: a table that stands for a date has none, and if it has no
date for its text nothing is reported. -/
def reportedKeys (t : Table) : List UnknownKey :=
  match entriesWithDates? t with
  | some t => unknownKeys t
  | none => []

end Settings

end TaintGrep
