import Mathlib.Data.List.Forall2
import TaintGrep.Proofs.JsonReader
import TaintGrep.Proofs.JsonWriting
import TaintGrep.Report.Machine

/-! What a program reads in the reports made for it: the one document and the lines both give back where
the scan was run, the counts and every record. -/

namespace TaintGrep.JsonText

def Value.text? : Value → Option String
  | .string s => some s
  | _ => none

def Value.count? : Value → Option Nat
  | .number q => if q.den = 1 ∧ 0 ≤ q.num then some q.num.toNat else none
  | _ => none

def Value.array? {α : Type} (item : Value → Option α) : Value → Option (List α)
  | .array vs => vs.mapM item
  | _ => none

def Value.field? (name : String) : Value → Option Value
  | .object fs => fs.lookup name
  | _ => none

def Value.get? {α : Type} (v : Value) (name : String) (item : Value → Option α) : Option α :=
  (v.field? name).bind item

def Denotes (v : Value) (cs : List Char) : Prop := Document v cs ∧ ∀ w, Document w cs → w = v

lemma Denotes.of_document {v : Value} {cs : List Char} (h : Document v cs) : Denotes v cs :=
  ⟨h, fun _ hw => hw.unique h⟩

end TaintGrep.JsonText

namespace TaintGrep.Report

open TaintGrep.JsonText

structure Contents where
  version : String
  origin : Origin
  summary : Summary
  records : List Record
  deriving DecidableEq, Repr

def severity? (label : String) : Option Severity :=
  [.information, .low, .medium, .high].find? fun s => s.label = label

def metadata? (v : Value) : Option (String × Origin) := do
  let version ← v.get? "domxss_version" Value.text?
  let workingDirectory ← v.get? "working_directory" Value.text?
  let analyzedPath ← v.get? "analyzed_path" Value.text?
  return (version, { workingDirectory, analyzedPath })

def summary? (v : Value) : Option Summary := do
  let totalPages ← v.get? "total_pages" Value.count?
  let pagesWithFindings ← v.get? "pages_with_findings" Value.count?
  let totalFindings ← v.get? "total_findings" Value.count?
  let bySeverity ← v.field? "by_severity"
  let high ← bySeverity.get? "high" Value.count?
  let medium ← bySeverity.get? "medium" Value.count?
  let low ← bySeverity.get? "low" Value.count?
  let information ← bySeverity.get? "information" Value.count?
  return { totalPages, pagesWithFindings, totalFindings, high, medium, low, information }

def record? (v : Value) : Option Record := do
  let plugin ← v.get? "plugin" Value.text?
  let title ← v.get? "name" Value.text?
  let severity ← (← v.get? "severity" Value.text?) |> severity?
  let url ← v.get? "url" Value.text?
  let responseId ← v.get? "response_id" Value.count?
  let line ← v.get? "line" Value.count?
  let sink ← v.get? "sink" Value.text?
  let source ← (v.field? "source").mapM Value.text?
  let highlight ← v.get? "highlight" (Value.array? Value.text?)
  let description ← v.get? "description" Value.text?
  return { plugin, title, severity, url, responseId, line, sink, source, highlight, description }

def contents? (v : Value) : Option Contents := do
  let (version, origin) ← v.get? "metadata" metadata?
  let summary ← v.get? "summary" summary?
  let records ← v.get? "findings" (Value.array? record?)
  return { version, origin, summary, records }

def tag? (v : Value) : Option String :=
  v.get? "type" Value.text?

def ofTag? {α : Type} (tag : String) (item : Value → Option α) (v : Value) : Option α :=
  if tag? v = some tag then item v else none

def contentsOfLines? : List Value → Option Contents
  | [] => none
  | first :: rest => do
    let (version, origin) ← ofTag? "metadata" metadata? first
    let last ← rest.getLast?
    let summary ← ofTag? "summary" summary? last
    let records ← rest.dropLast.mapM (ofTag? "finding" record?)
    return { version, origin, summary, records }

def lines? (cs : List Char) : Option (List (List Char)) :=
  if (cs.splitOn '\n').getLast? = some [] then some (cs.splitOn '\n').dropLast else none

def readDocument? (s : String) : Option Contents :=
  (read? s.toList).bind contents?

def readLines? (s : String) : Option Contents := do
  let lines ← lines? s.toList
  let values ← lines.mapM read?
  contentsOfLines? values

def contents (o : Origin) (totalPages : Nat) (rs : List Record) : Contents where
  version := version
  origin := o
  summary := summarize rs totalPages
  records := rs

section

variable {α : Type}

lemma mapM_map_eq_some {β γ : Type} {f : α → β} {g : α → γ} {item : β → Option γ}
    (h : ∀ a, item (f a) = some (g a)) (l : List α) : (l.map f).mapM item = some (l.map g) := by
  induction l with
  | nil => rfl
  | cons a l ih => simp [h, ih]

lemma text?_string (s : String) : (Json.string s).toValue.text? = some s := by
  rw [Json.toValue, Value.text?]

lemma count?_number (n : Nat) : (Json.number n).toValue.count? = some n := by
  simp [Json.toValue, Value.count?]

lemma Json.toValues_eq_map (vs : List Json) : Json.toValues vs = vs.map Json.toValue := by
  induction vs with
  | nil => rfl
  | cons v vs ih => rw [Json.toValues, ih, List.map_cons]

lemma array?_map {f : α → Json} {item : Value → Option α} (h : ∀ a, item (f a).toValue = some a)
    (l : List α) : (Json.array (l.map f)).toValue.array? item = some l := by
  rw [Json.toValue, Value.array?, Json.toValues_eq_map, List.map_map]
  simpa [Function.comp_def] using mapM_map_eq_some h l

lemma field?_cons (name k : String) (v : Json) (fs : List (String × Json)) :
    (Json.object ((k, v) :: fs)).toValue.field? name =
      if name = k then some v.toValue else (Json.object fs).toValue.field? name := by
  simp only [Json.toValue, Json.toFields, Value.field?, List.lookup_cons]
  by_cases h : name = k
  · simp [h]
  · simp [h, beq_eq_false_iff_ne.mpr h]

lemma field?_nil (name : String) : (Json.object []).toValue.field? name = none := by
  simp [Json.toValue, Json.toFields, Value.field?]

end

lemma severity?_label (s : Severity) : severity? s.label = some s := by
  cases s <;> decide

lemma metadata?_originFields (o : Origin) :
    metadata? (Json.object (originFields o)).toValue = some (version, o) := by
  simp [metadata?, originFields, Value.get?, field?_cons, text?_string]

lemma summary?_summaryFields (s : Summary) :
    summary? (Json.object (summaryFields s)).toValue = some s := by
  simp [summary?, summaryFields, Value.get?, field?_cons, count?_number]

lemma record?_recordFields (r : Record) : record? (Json.object (recordFields r)).toValue = some r := by
  obtain ⟨plugin, title, url, responseId, severity, highlight, description, sink, source, line⟩ := r
  have hhighlight := array?_map text?_string highlight
  cases source with
  | none =>
    simp [record?, recordFields, Value.get?, field?_cons, field?_nil, text?_string, count?_number,
      severity?_label, hhighlight]
  | some source =>
    simp [record?, recordFields, Value.get?, field?_cons, text?_string, count?_number,
      severity?_label, hhighlight]

lemma contents?_document (o : Origin) (totalPages : Nat) (rs : List Record) :
    contents? (document o totalPages rs).toValue = some (contents o totalPages rs) := by
  have hrecords := array?_map record?_recordFields rs
  simp [contents?, document, Value.get?, field?_cons, metadata?_originFields,
    summary?_summaryFields, hrecords, contents]

lemma tag?_tagged (tag : String) (fs : List (String × Json)) :
    tag? (tagged tag fs).toValue = some tag := by
  simp [tag?, tagged, Value.get?, field?_cons, text?_string]

lemma map_tag?_lineValues (o : Origin) (totalPages : Nat) (rs : List Record) :
    ((lineValues o totalPages rs).map Json.toValue).map tag? =
      some "metadata" :: List.replicate rs.length (some "finding") ++ [some "summary"] := by
  simp [lineValues, tag?_tagged, Function.comp_def]

lemma ofTag?_tagged {α : Type} {item : Value → Option α} {fs : List (String × Json)} {a : α}
    (tag : String) (htag : item (tagged tag fs).toValue = item (Json.object fs).toValue)
    (h : item (Json.object fs).toValue = some a) :
    ofTag? tag item (tagged tag fs).toValue = some a := by
  rw [ofTag?, if_pos (tag?_tagged tag fs), htag, h]

lemma contentsOfLines?_lineValues (o : Origin) (totalPages : Nat) (rs : List Record) :
    contentsOfLines? ((lineValues o totalPages rs).map Json.toValue) =
      some (contents o totalPages rs) := by
  have hmetadata := ofTag?_tagged "metadata"
    (by simp only [metadata?, tagged, Value.get?, field?_cons, String.reduceEq, if_false])
    (metadata?_originFields o)
  have hsummary := ofTag?_tagged "summary"
    (by simp only [summary?, tagged, Value.get?, field?_cons, String.reduceEq, if_false])
    (summary?_summaryFields (summarize rs totalPages))
  have hrecord : ∀ r, ofTag? "finding" record? (tagged "finding" (recordFields r)).toValue = some r :=
    fun r => ofTag?_tagged "finding"
      (by simp only [record?, tagged, Value.get?, field?_cons, String.reduceEq, if_false])
      (record?_recordFields r)
  have hrecords := mapM_map_eq_some hrecord rs
  simp [lineValues, contentsOfLines?, hmetadata, hsummary, Function.comp_def, hrecords, contents]

def Framed (lines : List (List Char)) (cs : List Char) : Prop :=
  cs = lines.flatMap (· ++ ['\n']) ∧ ∀ line ∈ lines, '\n' ∉ line

lemma Framed.splitOn_eq {lines : List (List Char)} {cs : List Char} (h : Framed lines cs) :
    cs.splitOn '\n' = lines ++ [[]] := by
  obtain ⟨rfl, hlines⟩ := h
  induction lines with
  | nil => rfl
  | cons line lines ih =>
    obtain ⟨hline, hrest⟩ := List.forall_mem_cons.mp hlines
    have hne : ∀ c ∈ line, (c == '\n') = false := fun c hc =>
      beq_eq_false_iff_ne.mpr fun hnewline => hline (hnewline ▸ hc)
    have hsplit := List.splitOnP_append_cons_of_forall_mem hne '\n' (beq_self_eq_true _)
      (lines.flatMap (· ++ ['\n']))
    rw [List.flatMap_cons, List.append_assoc, List.singleton_append, List.cons_append, ← ih hrest]
    exact hsplit

lemma lines?_of_framed {lines : List (List Char)} {cs : List Char} (h : Framed lines cs) :
    lines? cs = some lines := by
  rw [lines?, h.splitOn_eq, if_pos List.getLast?_concat, List.dropLast_concat]

lemma framed_jsonLines (o : Origin) (totalPages : Nat) (rs : List Record) :
    Framed ((lineValues o totalPages rs).map Json.compact) (jsonLines o totalPages rs).toList := by
  refine ⟨by rw [jsonLines, String.toList_ofList, List.flatMap_map], ?_⟩
  rintro line hline
  obtain ⟨v, -, rfl⟩ := List.mem_map.mp hline
  exact v.newline_notMem_compact

lemma readDocument?_json (o : Origin) (totalPages : Nat) (rs : List Record) :
    readDocument? (json o totalPages rs) = some (contents o totalPages rs) := by
  rw [readDocument?, json, String.toList_ofList, read?_of_document (Json.document_pretty 0 _)]
  exact contents?_document o totalPages rs

lemma readLines?_jsonLines (o : Origin) (totalPages : Nat) (rs : List Record) :
    readLines? (jsonLines o totalPages rs) = some (contents o totalPages rs) := by
  have hvalues := mapM_map_eq_some (fun v => read?_of_document (Json.document_compact v))
    (lineValues o totalPages rs)
  simp [readLines?, lines?_of_framed (framed_jsonLines o totalPages rs), hvalues,
    contentsOfLines?_lineValues]

theorem machine_reports_read_back (o : Origin) (totalPages : Nat) (rs : List Record) :
    (∃ v, Denotes v (json o totalPages rs).toList ∧
      contents? v = some (contents o totalPages rs)) ∧
    (∃ lines values, Framed lines (jsonLines o totalPages rs).toList ∧
      lines.length = rs.length + 2 ∧ List.Forall₂ Denotes values lines ∧
      values.map tag? =
        some "metadata" :: List.replicate rs.length (some "finding") ++ [some "summary"] ∧
      contentsOfLines? values = some (contents o totalPages rs)) ∧
    readDocument? (json o totalPages rs) = some (contents o totalPages rs) ∧
    readLines? (jsonLines o totalPages rs) = some (contents o totalPages rs) := by
  refine ⟨⟨(document o totalPages rs).toValue, ?_, contents?_document o totalPages rs⟩,
    ⟨(lineValues o totalPages rs).map Json.compact, (lineValues o totalPages rs).map Json.toValue,
      framed_jsonLines o totalPages rs, by simp [lineValues], ?_,
      map_tag?_lineValues o totalPages rs, contentsOfLines?_lineValues o totalPages rs⟩,
    readDocument?_json o totalPages rs, readLines?_jsonLines o totalPages rs⟩
  · rw [json, String.toList_ofList]
    exact .of_document (Json.document_pretty 0 _)
  · rw [List.forall₂_map_left_iff, List.forall₂_map_right_iff, List.forall₂_same]
    exact fun v _ => .of_document v.document_compact

end TaintGrep.Report
