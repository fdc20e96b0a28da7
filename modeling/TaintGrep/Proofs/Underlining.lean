import TaintGrep.Proofs.CaretSpans
import TaintGrep.Proofs.Folding
import TaintGrep.Proofs.FindingLines
import TaintGrep.Proofs.PageLines
import TaintGrep.Proofs.PageRecords
import TaintGrep.Proofs.Registration

/-! Reports for people show the evidence of every finding: the line of the page on which the whole call
stands, and below it carets under the snippet. -/

namespace TaintGrep

open TaintGrep.Text

namespace Call

variable {m : ScanMode} {name script : String} {c : Call}

lemma exists_spelling (h : c ∈ find m name script) : ∃ s : Spelling, s.Spells name ∧
    c.text.toList = s.chars ∧ c.arguments.toList = s.arguments := by
  have hall : c ∈ find .all name script := (ScanMode.keep_sublist m _).subset h
  obtain ⟨s, ⟨hs, -⟩, htext, harguments⟩ := startsAt_of_mem_find hall
  exact ⟨s, hs, by rw [htext, String.toList_ofList], by rw [harguments, String.toList_ofList]⟩

lemma newline_notMem_text (h : c ∈ find m name script) (hname : '\n' ∉ name.toList) :
    '\n' ∉ c.text.toList := by
  obtain ⟨s, ⟨hspelled, hgap, harguments⟩, htext, -⟩ := exists_spelling h
  have hn : '\n' ∉ s.name := by
    intro hmem
    have hfold : fold '\n' ∈ name.toList.map fold := hspelled ▸ List.mem_map_of_mem hmem
    obtain ⟨w, hw, he⟩ := List.mem_map.mp hfold
    obtain rfl := eq_of_fold_eq_of_isBlank he (by decide)
    exact hname hw
  have hg : '\n' ∉ s.gap := fun hmem => absurd (hgap _ hmem) (by decide)
  have ha : '\n' ∉ s.arguments := fun hmem => (harguments _ hmem).2 rfl
  rw [htext, Spelling.chars]
  simp [hn, hg, ha]

lemma getLast?_text (h : c ∈ find m name script) : c.text.toList.getLast? = some ')' := by
  obtain ⟨s, -, htext, -⟩ := exists_spelling h
  rw [htext, Spelling.chars, ← List.cons_append, ← List.append_assoc, List.getLast?_concat]

lemma arguments_infix_text (h : c ∈ find m name script) : c.arguments.toList <:+: c.text.toList := by
  obtain ⟨s, -, htext, harguments⟩ := exists_spelling h
  rw [htext, harguments]
  exact ⟨s.name ++ s.gap ++ ['('], [')'], by simp [Spelling.chars]⟩

end Call

namespace Detector

variable {d : Detector} {body : String} {f : Finding}

lemma highlight_infix_call (hsources : ∀ e ∈ d.analyzer.sources.names, e ≠ "")
    (hf : f ∈ d.findings body) : f.highlight.toList <:+: f.call.toList ∧ f.highlight ≠ "" := by
  obtain ⟨r, -, c, hc, source, rfl, hsource⟩ := exists_finding_of_mem (Or.inr (Or.inr hf))
  obtain ⟨sink, -, hfind⟩ := List.mem_flatMap.mp hc
  cases source with
  | none =>
    refine ⟨List.infix_rfl, fun he => ?_⟩
    have hlast := Call.getLast?_text hfind
    rw [show c.text = "" from he] at hlast
    cases hlast
  | some e =>
    obtain ⟨he, hoccurs⟩ := List.mem_filter.mp (hsource e rfl)
    exact ⟨(occursIn_iff.mp hoccurs).trans (Call.arguments_infix_text hfind), hsources e he⟩

lemma exists_sourceLine (url : String) (hsinks : ∀ name ∈ d.analyzer.sinks.names, '\n' ∉ name.toList)
    (hf : f ∈ d.findings body) :
    ∃ line, Report.sourceLine? [(url, body)] url f.line = some line ∧
      f.call.toList <:+: line.toList ∧ '\n' ∉ line.toList := by
  obtain ⟨r, hr, c, hc, hcall, hline⟩ := exists_call_of_mem (Or.inr (Or.inr hf))
  obtain ⟨passed, rest, hbody, -, hat⟩ := call_in_page hr hc
  obtain ⟨sink, hsink, hfind⟩ := List.mem_flatMap.mp hc
  have hlast := Call.getLast?_text hfind
  obtain ⟨line, hget, hpart, hnew⟩ := exists_getElem?_lines hbody
    (Call.newline_notMem_text hfind (hsinks sink hsink)) (by rintro he; rw [he] at hlast; cases hlast)
    (by rw [hlast]; decide)
  refine ⟨line, ?_, hcall ▸ hpart, hnew⟩
  rw [hline, hat, Option.getD_some, Nat.add_comm]
  simpa [Report.sourceLine?] using hget

end Detector

namespace Report

def marked (shown carets : List Char) : List Char :=
  (shown.zip carets).filterMap fun (c, mark) => if mark = '^' then some c else none

/-- The text has this line, and under it a line with carets below the snippet and nowhere else. -/
def Underlines (text shown snippet : String) : Prop :=
  ∃ carets : String, ("\n" ++ shown ++ "\n" ++ carets ++ "\n").toList <:+: text.toList ∧
    '\n' ∉ shown.toList ∧ '\n' ∉ carets.toList ∧ carets.length ≤ shown.length ∧
    marked shown.toList carets.toList = snippet.toList

lemma marked_append {a b : List Char} (h : a.length = b.length) (s t : List Char) :
    marked (a ++ s) (b ++ t) = marked a b ++ marked s t := by
  rw [marked, List.zip_append h, List.filterMap_append, ← marked, ← marked]

lemma marked_eq_nil {b : List Char} (a : List Char) (h : '^' ∉ b) : marked a b = [] := by
  refine List.filterMap_eq_nil_iff.mpr fun p hp => if_neg fun he => h ?_
  rw [← he]
  exact (List.of_mem_zip hp).2

lemma marked_replicate (s : List Char) (n : Nat) : marked s (List.replicate n '^') = s.take n := by
  induction n generalizing s with
  | zero => simp [marked]
  | succ n ih =>
    cases s with
    | nil => rfl
    | cons c s =>
      rw [List.replicate_succ, List.take_succ_cons, ← ih]
      rfl

lemma marked_column {s : List Char} {column : Nat} (h : column ≤ s.length) (width : Nat) :
    marked s (List.replicate column ' ' ++ List.replicate width '^') = (s.drop column).take width := by
  have hlength : (s.take column).length = (List.replicate column ' ').length := by simp [h]
  conv_lhs => rw [← List.take_append_drop column s]
  rw [marked_append hlength, marked_eq_nil _ (by simp), marked_replicate, List.nil_append]

lemma length_times (n : Nat) (c : Char) : (times n c).length = n := by
  simp [times]

lemma notMem_toDigits {c : Char} (hc : c.isDigit = false) (n : Nat) : c ∉ Nat.toDigits 10 n := by
  intro h
  rw [Nat.isDigit_of_mem_toDigits (by decide) (by decide) h] at hc
  cases hc

lemma newline_notMem_toDigits (n : Nat) : '\n' ∉ Nat.toDigits 10 n := notMem_toDigits rfl n

variable {bodies : Bodies} {r : Record} {line : String} {column width : Nat}

lemma infix_recordBlock (hline : sourceLine? bodies r.url r.line = some line)
    (hspan : highlightSpan? line r.highlight = some (column, width)) :
    ("\n" ++ (toString r.line ++ " | " ++ line) ++ "\n" ++
      (times (toString r.line).length ' ' ++ " | " ++ times column ' ' ++ times (max width 1) '^') ++
      "\n").toList <:+: (recordBlock false bodies r).toList := by
  simp only [recordBlock, recordLines, hline, Option.map_some, Option.getD_some, sourceLines, hspan,
    blue, caretLine, Paint.apply_false, Option.toList_some, List.cons_append, List.nil_append,
    String.intercalate_cons_cons, String.intercalate_singleton]
  generalize severityLabel false r.severity ++ "[" ++ r.sink ++ "]: " ++ r.title = first
  generalize "  " ++ "-->" ++ " " ++ r.url ++ ":" ++ toString r.line = second
  generalize times (toString r.line).length ' ' = padding
  refine ⟨(first ++ "\n" ++ second ++ "\n" ++ padding ++ " |").toList,
    (padding ++ " |" ++ "\n" ++ padding ++ " = " ++ r.description).toList, ?_⟩
  simp

lemma underlines_recordBlock {snippet : String} (hline : sourceLine? bodies r.url r.line = some line)
    (hnew : '\n' ∉ line.toList) (hspan : highlightSpan? line r.highlight = some (column, width))
    (hfits : column + max width 1 ≤ line.length)
    (hsnippet : (line.toList.drop column).take (max width 1) = snippet.toList) :
    Underlines (recordBlock false bodies r) (toString r.line ++ " | " ++ line) snippet := by
  refine ⟨_, infix_recordBlock hline hspan, ?_, ?_, ?_, ?_⟩
  · simp [newline_notMem_toDigits, hnew]
  · simp [times]
  · simp only [String.length_append, length_times]
    omega
  · -- the number and its padding are equally wide, so the carets keep their column
    have hgutter : (toString r.line ++ " | ").toList.length =
        (times (toString r.line).length ' ' ++ " | ").toList.length := by
      simp only [String.length_toList, String.length_append, length_times]
    have hcarets : (times (toString r.line).length ' ' ++ " | " ++ times column ' ' ++
        times (max width 1) '^').toList = (times (toString r.line).length ' ' ++ " | ").toList ++
          (List.replicate column ' ' ++ List.replicate (max width 1) '^') := by simp [times]
    have hcolumn : column ≤ line.toList.length := by
      rw [String.length_toList]
      omega
    rw [hcarets, String.toList_append, marked_append hgutter, marked_eq_nil _ (by simp [times]),
      List.nil_append, marked_column hcolumn, hsnippet]

lemma highlightSpan?_singleton {snippet : String} (h : snippet.toList <:+: line.toList) :
    ∃ column, highlightSpan? line [snippet] = some (column, snippet.length) ∧
      (line.toList.drop column).take snippet.length = snippet.toList ∧
      column + snippet.length ≤ line.length := by
  obtain ⟨column, hindex⟩ := Option.isSome_iff_exists.mp (occursIn_iff.mpr h)
  obtain ⟨hle, ⟨after, hafter⟩, -⟩ := indexOf?_eq_some_iff.mp hindex
  have hlength := congrArg List.length hafter
  simp only [List.length_append, List.length_drop, String.length_toList] at hle hlength
  have hspan : highlightSpan? line [snippet] = some (column, snippet.length) :=
    highlightSpan?_eq_some_iff.mpr ⟨[], snippet, [], rfl, by simp, spelledFirst_iff.mpr hindex, rfl⟩
  refine ⟨column, hspan, ?_, by omega⟩
  rw [← hafter, ← String.length_toList, List.take_left]

end Report

theorem Report.recordBlock_underlines {compiles : String → Bool} {s : Settings} {d : Detector}
    (hd : Detector.ofSettings compiles s = .ok d)
    (hsinks : ∀ name ∈ d.analyzer.sinks.names, '\n' ∉ name.toList) (body url : String) (id : Nat)
    {f : Finding} (hf : f ∈ d.findings body) :
    let r := Record.ofFinding url id f
    ∃ line column width, sourceLine? [(url, body)] r.url r.line = some line ∧
      f.call.toList <:+: line.toList ∧ r.highlight = [f.highlight] ∧
      highlightSpan? line r.highlight = some (column, width) ∧
      (line.toList.drop column).take (max width 1) = f.highlight.toList ∧
      Underlines (recordBlock false [(url, body)] r) (toString r.line ++ " | " ++ line) f.highlight := by
  intro r
  have hurl : r.url = url := Record.ofFinding_url url id f
  have hrline : r.line = f.line := Record.ofFinding_line url id f
  have hhighlight : r.highlight = [f.highlight] := Record.ofFinding_highlight url id f
  obtain ⟨a, ha, rfl⟩ := Detector.eq_of_ofSettings hd
  have hsources : ∀ e ∈ a.sources.names, e ≠ "" := by
    intro e he
    have htrimmed := (Analyzer.built_of_ofPatterns ha).2.1.trimmed Registry.trimmed_defaultSources
    obtain ⟨p, -, hne⟩ := htrimmed e he
    exact hne
  obtain ⟨line, hline, hcall, hnew⟩ := Detector.exists_sourceLine url hsinks hf
  obtain ⟨hpart, hne⟩ := Detector.highlight_infix_call hsources hf
  obtain ⟨column, hspan, hspells, hfits⟩ := highlightSpan?_singleton (hpart.trans hcall)
  have hwidth : max f.highlight.length 1 = f.highlight.length := by
    have hpos : f.highlight.length ≠ 0 := fun h => hne (String.length_eq_zero_iff.mp h)
    omega
  rw [← hwidth] at hspells hfits
  rw [← hhighlight] at hspan
  have hshown : sourceLine? [(url, body)] r.url r.line = some line := by rw [hurl, hrline, hline]
  exact ⟨line, column, f.highlight.length, hshown, hcall, hhighlight, hspan, hspells,
    underlines_recordBlock hshown hnew hspan hfits hspells⟩

theorem Report.recordBlock_underlines_carriage_return :
    ∃ s d body f, Detector.ofSettings (fun _ => true) s = .ok d ∧
      (∀ name ∈ d.analyzer.sinks.names, '\n' ∉ name.toList) ∧ f ∈ d.findings body ∧
      ∃ line, f.call.toList <:+: line.toList ∧
        Underlines (recordBlock false [("u", body)] (.ofFinding "u" 0 f)) ("2 | " ++ line)
          "document.URL" := by
  let s : Settings := { patterns := { extraSinks := ["éval"] } }
  obtain ⟨d, hd⟩ : ∃ d, Detector.ofSettings (fun _ => true) s = .ok d := ⟨_, rfl⟩
  have hsinks : ∀ name ∈ d.analyzer.sinks.names, '\n' ∉ name.toList := by
    cases hd
    decide +kernel
  have hf : .tainted "éval" "document.URL" "'ß' + document.URL" "ÉVAL ('ß' + document.URL)" 2 ∈
      d.findings "é\r\n<script>ß; ÉVAL ('ß' + document.URL)\r\n</script>" := by
    cases hd
    decide +kernel
  obtain ⟨line, column, width, -, hcall, -, -, -, hunder⟩ :=
    Report.recordBlock_underlines hd hsinks _ "u" 0 hf
  exact ⟨s, d, _, _, hd, hsinks, hf, line, hcall, hunder⟩

end TaintGrep
