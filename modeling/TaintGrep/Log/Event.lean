import TaintGrep.Report.Json
import TaintGrep.Text.Quoted

/-!
Log events: a level, where the event comes from, a message and named fields. An event is logged on a
plain line with the fields after the message, or as one JSON object, with the time before it.
-/

namespace TaintGrep.Log

inductive Level where
  | trace
  | debug
  | info
  | warn
  | error
  deriving DecidableEq, Repr, Inhabited

namespace Level

def ofName? : String → Option Level
  | "trace" => some .trace
  | "debug" => some .debug
  | "info" => some .info
  | "warn" => some .warn
  | "error" => some .error
  | _ => none

def label : Level → String
  | .trace => "TRACE"
  | .debug => "DEBUG"
  | .info => "INFO"
  | .warn => "WARN"
  | .error => "ERROR"

def rank : Level → Nat
  | .trace => 0
  | .debug => 1
  | .info => 2
  | .warn => 3
  | .error => 4

end Level

inductive Value where
  | number (n : Nat)
  | quoted (s : String)
  | plain (s : String)
  deriving DecidableEq, Repr

structure Event where
  level : Level
  target : String
  message : String
  fields : List (String × Value)
  deriving DecidableEq, Repr

def Event.isShownAt (l : Level) (e : Event) : Bool :=
  l.rank ≤ e.level.rank

open TaintGrep.Text TaintGrep.Report

def Value.text : Value → String
  | .number n => toString n
  | .quoted s => Quoted.quote s
  | .plain s => s

def Value.json : Value → Json
  | .number n => .number n
  | .quoted s | .plain s => .string s

def Level.column (l : Level) : String :=
  String.ofList (List.replicate (5 - l.label.length) ' ') ++ l.label

namespace Event

def plainLine (time : String) (e : Event) : String :=
  time ++ " " ++ e.level.column ++ " " ++ e.target ++ ": " ++ e.message ++
    String.join (e.fields.map fun (k, v) => " " ++ k ++ "=" ++ v.text) ++ "\n"

def jsonLine (time : String) (e : Event) : String :=
  let fields := ("message", Json.string e.message) :: e.fields.map fun (k, v) => (k, v.json)
  String.ofList (Json.compact (.object
    [("timestamp", .string time), ("level", .string e.level.label), ("fields", .object fields),
      ("target", .string e.target)])) ++ "\n"

def line (json : Bool) (time : String) (e : Event) : String :=
  if json then e.jsonLine time else e.plainLine time

end Event

structure Date where
  year : Nat
  month : Nat
  day : Nat
  deriving DecidableEq, Repr

/-- The date a number of days after 1 January 1970. Years are counted from March, so that a leap day
ends its year, in spans of 400 years, which all have 146097 days. -/
def Date.ofDays (days : Nat) : Date :=
  let n := days + 719468
  let inSpan := n % 146097
  let year := (inSpan - inSpan / 1460 + inSpan / 36524 - inSpan / 146096) / 365
  let inYear := inSpan - (365 * year + year / 4 - year / 100)
  let month := (5 * inYear + 2) / 153
  let day := inYear - (153 * month + 2) / 5 + 1
  if month < 10 then ⟨n / 146097 * 400 + year, month + 3, day⟩
  else ⟨n / 146097 * 400 + year + 1, month - 9, day⟩

def padded (width n : Nat) : String :=
  let digits := toString n
  String.ofList (List.replicate (width - digits.length) '0') ++ digits

def stamp (micros : Nat) : String :=
  let seconds := micros / 1000000
  let date := Date.ofDays (seconds / 86400)
  padded 4 date.year ++ "-" ++ padded 2 date.month ++ "-" ++ padded 2 date.day ++ "T" ++
    padded 2 (seconds / 3600 % 24) ++ ":" ++ padded 2 (seconds / 60 % 60) ++ ":" ++
    padded 2 (seconds % 60) ++ "." ++ padded 6 (micros % 1000000) ++ "Z"

end TaintGrep.Log
