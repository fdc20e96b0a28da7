import TaintGrep.Files.Tree
import TaintGrep.Settings.Decode
import TaintGrep.Text.Utf8
import TaintGrep.Toml.Document

/-!
Settings from files. The file nearest to a directory holds, going up by the components of its path
as written; a file that cannot be used gives a warning and the built-in settings.
-/

namespace TaintGrep.Settings

open TaintGrep.Files TaintGrep.Text

def fileName : Name := "domxss.toml"

inductive ReadFault where
  | files (f : Files.Fault)
  | notText
  deriving DecidableEq, Repr

def ReadFault.message : ReadFault → String
  | .files f => f.message
  | .notText => "stream did not contain valid UTF-8"

inductive LoadError where
  | unreadable (path : String) (fault : ReadFault)
  | notToml (path : String)
  | wrong (path : String) (fault : Fault)
  deriving Repr

def notTomlMessage : String := "the text is not a TOML document"

def LoadError.message : LoadError → String
  | .unreadable path fault => "Failed to read config file '" ++ path ++ "': " ++ fault.message
  | .notToml path => "Invalid TOML in '" ++ path ++ "': " ++ notTomlMessage
  | .wrong path fault => "Invalid TOML in '" ++ path ++ "': " ++ fault.message

inductive Warning where
  | unknownKey (k : UnknownKey)
  | unusable (e : LoadError)
  deriving Repr

def Warning.message : Warning → String
  | .unknownKey k => k.message
  | .unusable e => e.message ++ "; using defaults"

structure Loaded where
  settings : Settings
  warnings : List Warning

def readText (t : Tree) (p : Path) : Except ReadFault String :=
  match t.read p with
  | .error f => .error (.files f)
  | .ok bytes =>
    match Utf8.decode bytes with
    | .ok cs => .ok (String.ofList cs)
    | .error _ => .error .notText

def load (t : Tree) (p : Path) : Except LoadError Loaded :=
  match readText t p with
  | .error f => .error (.unreadable p.text f)
  | .ok s =>
    match Toml.parse? s with
    | none => .error (.notToml p.text)
    | some table =>
      match ofTable table with
      | .error f => .error (.wrong p.text f)
      | .ok settings => .ok ⟨settings, (reportedKeys table).map .unknownKey⟩

def places (start : Path) : List Path :=
  start.ancestors.map fun p => p.join fileName

def findFrom? (present : Path → Bool) (p : Path) : Option Path :=
  if present (p.join fileName) then some (p.join fileName)
  else
    match h : p.parent? with
    | none => none
    | some q =>
      have := Path.length_parent?_lt h
      findFrom? present q
termination_by p.pieces.length

def find? (t : Tree) (start : Path) : Option Path :=
  findFrom? t.exists? start

def nearest (t : Tree) (start : Path) : Loaded :=
  match find? t start with
  | none => ⟨{}, []⟩
  | some p =>
    match load t p with
    | .ok l => l
    | .error e => ⟨{}, [.unusable e]⟩

end TaintGrep.Settings
