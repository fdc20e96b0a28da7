import TaintGrep.Record.Unique
import TaintGrep.Report.Json

/-!
Reports for programs: one JSON document, or one JSON object on each line, with counts over the records.
-/

namespace TaintGrep.Report

structure Summary where
  totalPages : Nat
  pagesWithFindings : Nat
  totalFindings : Nat
  high : Nat
  medium : Nat
  low : Nat
  information : Nat
  deriving DecidableEq, Repr

def countOf (s : Severity) (rs : List Record) : Nat :=
  rs.countP fun r => r.severity = s

def summarize (rs : List Record) (totalPages : Nat) : Summary where
  totalPages := totalPages
  pagesWithFindings := (Record.urls rs).length
  totalFindings := rs.length
  high := countOf .high rs
  medium := countOf .medium rs
  low := countOf .low rs
  information := countOf .information rs

def version : String := "0.1.0"

structure Origin where
  workingDirectory : String
  analyzedPath : String
  deriving DecidableEq, Repr

def originFields (o : Origin) : List (String × Json) :=
  [("domxss_version", .string version), ("working_directory", .string o.workingDirectory),
    ("analyzed_path", .string o.analyzedPath)]

def summaryFields (s : Summary) : List (String × Json) :=
  [("total_pages", .number s.totalPages), ("pages_with_findings", .number s.pagesWithFindings),
    ("total_findings", .number s.totalFindings),
    ("by_severity", .object
      [("high", .number s.high), ("medium", .number s.medium), ("low", .number s.low),
        ("information", .number s.information)])]

def recordFields (r : Record) : List (String × Json) :=
  [("plugin", .string r.plugin), ("name", .string r.title), ("severity", .string r.severity.label),
    ("url", .string r.url), ("response_id", .number r.responseId), ("line", .number r.line),
    ("sink", .string r.sink)] ++
    (r.source.map fun s => ("source", Json.string s)).toList ++
    [("highlight", .array (r.highlight.map .string)), ("description", .string r.description)]

def document (o : Origin) (totalPages : Nat) (rs : List Record) : Json :=
  .object
    [("version", .string "1.0"), ("metadata", .object (originFields o)),
      ("summary", .object (summaryFields (summarize rs totalPages))),
      ("findings", .array (rs.map fun r => .object (recordFields r)))]

def json (o : Origin) (totalPages : Nat) (rs : List Record) : String :=
  String.ofList ((document o totalPages rs).pretty 0)

def tagged (tag : String) (fields : List (String × Json)) : Json :=
  .object (("type", .string tag) :: fields)

def lineValues (o : Origin) (totalPages : Nat) (rs : List Record) : List Json :=
  tagged "metadata" (originFields o) :: rs.map (fun r => tagged "finding" (recordFields r)) ++
    [tagged "summary" (summaryFields (summarize rs totalPages))]

def jsonLines (o : Origin) (totalPages : Nat) (rs : List Record) : String :=
  String.ofList ((lineValues o totalPages rs).flatMap fun v => v.compact ++ ['\n'])

end TaintGrep.Report
