import TaintGrep.Record.Unique
import TaintGrep.Text.Basic
import TaintGrep.Text.Paint
import TaintGrep.Text.Scan
import TaintGrep.Text.Utf8

/-!
Reports for people: one line for each record and their number at the end, or each record with the line
of the page it is about and carets under the evidence, then a summary.
-/

namespace TaintGrep.Report

open TaintGrep.Text

def plainLine (colour : Bool) (r : Record) : String :=
  r.url ++ ":" ++ toString r.line ++ ": " ++ r.severity.label ++ " [" ++
    Paint.dimmed.apply colour r.sink ++ "]: " ++ r.description

def plain (colour : Bool) (rs : List Record) : String :=
  String.join (rs.map fun r => plainLine colour r ++ "\n") ++
    if rs.isEmpty then "" else "\nFound " ++ toString rs.length ++ " finding(s)\n"

/-- The bodies of pages by address; of two bodies for one address the later counts. -/
abbrev Bodies := List (String × String)

def sourceLine? (bodies : Bodies) (url : String) (line : Nat) : Option String :=
  match bodies.reverse.lookup url, line with
  | some body, n + 1 => (lines body)[n]?
  | _, _ => none

/-- The column and the width, in characters, of the first snippet of the list that the line holds, at
its first place among the bytes of the line. An error means that the bytes before that place are no
text. -/
def byteSpan? (line : String) (snippets : List String) : Option (Except Utf8.Fault (Nat × Nat)) :=
  snippets.findSome? fun s =>
    (indexOf? (Utf8.encode s) (Utf8.encode line)).map fun byte =>
      (Utf8.decode ((Utf8.encode line).take byte)).map fun before => (before.length, s.length)

def highlightSpan? (line : String) (snippets : List String) : Option (Nat × Nat) :=
  (byteSpan? line snippets).bind Except.toOption

def severityLabel (colour : Bool) : Severity → String
  | .high => (Paint.strong .red).apply colour "high"
  | .medium => (Paint.strong .yellow).apply colour "medium"
  | .low => (Paint.plain .yellow).apply colour "low"
  | .information => (Paint.strong .blue).apply colour "info"

def times (n : Nat) (c : Char) : String :=
  String.ofList (List.replicate n c)

def blue (colour : Bool) (s : String) : String :=
  (Paint.plain .blue).apply colour s

def caretLine (colour : Bool) (padding : String) (column width : Nat) : String :=
  padding ++ " " ++ blue colour "|" ++ " " ++ times column ' ' ++
    (Paint.plain .red).apply colour (times (max width 1) '^')

def sourceLines (colour : Bool) (r : Record) (source : String) : List String :=
  let number := toString r.line
  let padding := times number.length ' '
  [padding ++ " " ++ blue colour "|",
    blue colour number ++ " " ++ blue colour "|" ++ " " ++ source] ++
    ((highlightSpan? source r.highlight).map fun (column, width) =>
      caretLine colour padding column width).toList ++
    [padding ++ " " ++ blue colour "|"]

def recordLines (colour : Bool) (bodies : Bodies) (r : Record) : List String :=
  [severityLabel colour r.severity ++ "[" ++ Paint.dimmed.apply colour r.sink ++ "]: " ++ r.title,
    "  " ++ blue colour "-->" ++ " " ++ r.url ++ ":" ++ toString r.line] ++
    ((sourceLine? bodies r.url r.line).map (sourceLines colour r)).getD [] ++
    [times (toString r.line).length ' ' ++ " " ++ blue colour "=" ++ " " ++ r.description]

def recordBlock (colour : Bool) (bodies : Bodies) (r : Record) : String :=
  "\n".intercalate (recordLines colour bodies r)

structure PrettySummary where
  tainted : Nat
  risky : Nat
  pages : Nat
  deriving DecidableEq, Repr

def prettySummary (rs : List Record) : PrettySummary :=
  let tainted := rs.countP fun r => r.severity ≠ .information
  ⟨tainted, rs.length - tainted, (Record.urls rs).length⟩

def PrettySummary.text (colour : Bool) (s : PrettySummary) : String :=
  let sinks := toString s.tainted ++ if s.tainted = 1 then " tainted sink" else " tainted sinks"
  "\nFound " ++ (Paint.strong .yellow).apply colour sinks ++ " in " ++
    Paint.bold.apply colour (toString s.pages) ++ (if s.pages = 1 then " page" else " pages") ++
    " (" ++ blue colour (toString s.risky) ++ " risky call(s) reported)\n"

def pretty (colour : Bool) (bodies : Bodies) (rs : List Record) : String :=
  String.join (rs.map fun r => recordBlock colour bodies r ++ "\n") ++
    if rs.isEmpty then "" else (prettySummary rs).text colour

end TaintGrep.Report
