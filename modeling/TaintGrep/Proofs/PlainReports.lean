import TaintGrep.Proofs.StandardOutput
import TaintGrep.Proofs.Underlining

/-! Reports in plain text have one line for each record. What a page adds to a line is a call, which stands on
one line of the page, or a source that occurs in its arguments; so no page can break a line, nor pass off
its own text as a line of the report. -/

namespace TaintGrep

open TaintGrep.Text

namespace Detector

variable {d : Detector} {body : String} {f : Finding}

lemma sink_mem_of_mem_findings (hf : f ∈ d.findings body) : f.sink ∈ d.analyzer.sinks.names := by
  obtain ⟨r, -, c, hc, source, rfl, -⟩ := exists_finding_of_mem (Or.inr (Or.inr hf))
  obtain ⟨sink, hsink, hfind⟩ := List.mem_flatMap.mp hc
  have hall : c ∈ Call.find .all sink r.text := (ScanMode.keep_sublist _ _).subset hfind
  rwa [Analyzer.finding_sink, Call.sink_of_mem_find hall]

lemma source_mem_of_mem_findings (hf : f ∈ d.findings body) :
    ∀ e ∈ f.source, e ∈ d.analyzer.sources.names := by
  obtain ⟨r, -, c, -, source, rfl, hsource⟩ := exists_finding_of_mem (Or.inr (Or.inr hf))
  rw [Analyzer.finding_source]
  exact fun e he => (List.mem_filter.mp (hsource e he)).1

lemma newline_notMem_highlight (hsinks : ∀ name ∈ d.analyzer.sinks.names, '\n' ∉ name.toList)
    (hf : f ∈ d.findings body) : '\n' ∉ f.highlight.toList := by
  obtain ⟨r, -, c, hc, source, rfl, hsource⟩ := exists_finding_of_mem (Or.inr (Or.inr hf))
  obtain ⟨sink, hsink, hfind⟩ := List.mem_flatMap.mp hc
  have htext : '\n' ∉ c.text.toList := Call.newline_notMem_text hfind (hsinks sink hsink)
  cases source with
  | none => exact htext
  | some e =>
    have hoccurs := occursIn_iff.mp (List.mem_filter.mp (hsource e rfl)).2
    exact fun hmem => htext ((hoccurs.trans (Call.arguments_infix_text hfind)).subset hmem)

end Detector

lemma Finding.newline_notMem_account {f : Finding} {url : String} (hurl : '\n' ∉ url.toList)
    (hsink : '\n' ∉ f.sink.toList) (hhighlight : '\n' ∉ f.highlight.toList) :
    '\n' ∉ (f.account url).toList := by
  cases f with
  | tainted sink e =>
    have he : '\n' ∉ e.toList := hhighlight
    simp [account, tainted, hurl, he]
  | riskyCall sink arguments call =>
    have hname : '\n' ∉ sink.toList := hsink
    have hcall : '\n' ∉ call.toList := hhighlight
    simp [account, riskyCall, hurl, hname, hcall]

namespace Report

def recordLine (r : Record) : String :=
  r.url ++ ":" ++ toString r.line ++ ": " ++ r.severity.label ++ " [" ++ r.sink ++ "]: " ++ r.description

def closingLines (n : Nat) : List String :=
  if n = 0 then [] else ["", "Found " ++ toString n ++ " finding(s)"]

def plainLines (rs : List Record) : List String := rs.map recordLine ++ closingLines rs.length

lemma newline_notMem_recordLine {r : Record} (hurl : '\n' ∉ r.url.toList) (hsink : '\n' ∉ r.sink.toList)
    (hdescription : '\n' ∉ r.description.toList) : '\n' ∉ (recordLine r).toList := by
  have hlabel : '\n' ∉ r.severity.label.toList := by cases r.severity <;> decide
  simp [recordLine, newline_notMem_toDigits, hurl, hlabel, hsink, hdescription]

lemma notMem_of_mem_closingLines {c : Char} {n : Nat} {line : String} (hdigit : c.isDigit = false)
    (hwords : c ∉ "Found ".toList ++ " finding(s)".toList) (h : line ∈ closingLines n) :
    c ∉ line.toList := by
  have hnumber : c ∉ (toString n).toList := by simpa using notMem_toDigits hdigit n
  rw [List.mem_append, not_or] at hwords
  unfold closingLines at h
  split_ifs at h
  · cases h
  · rcases List.mem_pair.mp h with rfl | rfl
    · exact List.not_mem_nil
    · rw [String.toList_append, String.toList_append, List.mem_append, List.mem_append, not_or, not_or]
      exact ⟨⟨hwords.1, hnumber⟩, hwords.2⟩

lemma recordLine_notMem_closingLines (r : Record) (n : Nat) : recordLine r ∉ closingLines n := by
  intro h
  have hbracket : '[' ∈ (recordLine r).toList := by simp [recordLine]
  exact notMem_of_mem_closingLines rfl (by decide) h hbracket

lemma plainLine_false (r : Record) : plainLine false r = recordLine r := by
  rw [plainLine, Paint.apply_false, recordLine]

lemma toList_plain (rs : List Record) :
    (plain false rs).toList = ((plainLines rs).map String.toList).flatMap (· ++ ['\n']) := by
  have hclosing : (if rs.isEmpty then "" else "\nFound " ++ toString rs.length ++ " finding(s)\n").toList =
      ((closingLines rs.length).map String.toList).flatMap (· ++ ['\n']) := by
    cases rs with
    | nil => rfl
    | cons r rs => simp [closingLines]
  rw [plain, String.toList_append, hclosing, plainLines, List.map_append, List.flatMap_append,
    String.toList_join]
  simp [plainLine_false, List.flatMap_map]

lemma framed_plain {rs : List Record} (h : ∀ r ∈ rs, '\n' ∉ (recordLine r).toList) :
    Framed ((plainLines rs).map String.toList) (plain false rs).toList := by
  refine ⟨toList_plain rs, ?_⟩
  have hclosing : ∀ line ∈ closingLines rs.length, '\n' ∉ line.toList :=
    fun line hline => notMem_of_mem_closingLines rfl (by decide) hline
  simpa [plainLines, or_imp, forall_and] using ⟨h, hclosing⟩

/-- Neither address goes on from the other with a colon. -/
def Apart (url url' : String) : Prop :=
  ¬ (url ++ ":").toList <+: url'.toList ∧ ¬ (url' ++ ":").toList <+: url.toList

lemma eq_of_concat_isPrefix {u v : List Char} {c : Char} (h : u ++ [c] <+: v ++ [c])
    (hlonger : ¬ u ++ [c] <+: v) : u = v := by
  rcases List.prefix_concat_iff.mp h with heq | hwithin
  · exact List.append_cancel_right heq
  · exact absurd hwithin hlonger

lemma url_eq_of_begins {r : Record} {url : String} (hapart : Apart r.url url)
    (hbegins : (url ++ ":").toList <+: (recordLine r).toList) : r.url = url := by
  have hown : (r.url ++ ":").toList <+: (recordLine r).toList := by simp [recordLine]
  obtain ⟨hurl, hother⟩ := hapart
  rw [String.toList_append] at hown hbegins hurl hother
  apply String.toList_inj.mp
  rcases List.prefix_or_prefix_of_prefix hown hbegins with h | h
  · exact eq_of_concat_isPrefix h hurl
  · exact (eq_of_concat_isPrefix h hother).symm

end Report

namespace Command.Check

section

variable {t : Files.Tree} {root : Files.Path} {base : Option String} {d : Detector}
  {pages : List Files.Page} {r : Record}

lemma traced_of_mem_scan (h : r ∈ scan ⟨[Plugin.ofDetector d]⟩ (responses t root base pages)) :
    Traced t root base d pages r := by
  rw [scan_detector] at h
  obtain ⟨p, hp, hr⟩ := List.mem_flatMap.mp ((Record.unique_sublist _ _).subset h)
  exact traced_of_mem_records hp hr

lemma Traced.names_mem (h : Traced t root base d pages r) :
    r.sink ∈ d.analyzer.sinks.names ∧ ∀ e ∈ r.source, e ∈ d.analyzer.sources.names := by
  obtain ⟨-, body, -, -, -, hrecord⟩ := h
  obtain ⟨f, hf, hfinding⟩ := List.mem_map.mp hrecord
  rw [← hfinding, Record.ofFinding_sink, Record.ofFinding_source]
  exact ⟨Detector.sink_mem_of_mem_findings hf, Detector.source_mem_of_mem_findings hf⟩

lemma Traced.newline_notMem_line (h : Traced t root base d pages r)
    (hsinks : ∀ name ∈ d.analyzer.sinks.names, '\n' ∉ name.toList)
    (hurls : ∀ page ∈ pages, '\n' ∉ (page.url t root base).toList) :
    '\n' ∉ (Report.recordLine r).toList := by
  have hsink : '\n' ∉ r.sink.toList := hsinks r.sink h.names_mem.1
  obtain ⟨page, body, hpage, haddress, -, hrecord⟩ := h
  have hurl : '\n' ∉ r.url.toList := haddress ▸ hurls page (List.mem_of_getElem? hpage)
  obtain ⟨f, hf, hfinding⟩ := List.mem_map.mp hrecord
  refine Report.newline_notMem_recordLine hurl hsink ?_
  rw [← hfinding, Record.ofFinding_sink] at hsink
  rw [← hfinding, Record.ofFinding_description]
  exact Finding.newline_notMem_account hurl hsink (Detector.newline_notMem_highlight hsinks hf)

end

variable {s : Surroundings} {o : CheckOptions} {d : Detector}

lemma stdout_text (hd : Detector.ofSettings s.compiles (settings s o) = .ok d)
    (hformat : o.format = "text")
    (hcolour : paints s.console o = false) (hpages : discovered s o ≠ []) :
    ¬ (run s o).Failed ∧ stdout (run s o).outputs = Report.plain false
      (scan ⟨[Plugin.ofDetector d]⟩ (responses s.files (.ofString o.path) o.baseUrl (discovered s o))) := by
  have hengine : Engine.ofSettings s.compiles (settings s o) = .ok ⟨[Plugin.ofDetector d]⟩ := by
    rw [Engine.ofSettings, hd]
  have hended : ¬ (run s o).Failed := by
    rw [failed_run_iff (by simp [hformat]), hengine, exists?_of_discovered hpages]
    simp
  obtain ⟨hnone, -⟩ | ⟨-, e, he, hreport⟩ := stdout_run hended
  · exact absurd hnone hpages
  · obtain rfl := Except.ok.inj (hengine.symm.trans he)
    rw [reportOf?, hformat, hcolour] at hreport
    exact ⟨hended, (Option.some.inj hreport).symm⟩

theorem run_text_lines (hd : Detector.ofSettings s.compiles (settings s o) = .ok d)
    (hformat : o.format = "text")
    (hcolour : paints s.console o = false) (hpages : discovered s o ≠ [])
    (hsinks : ∀ name ∈ d.analyzer.sinks.names, '\n' ∉ name.toList)
    (hurls : ∀ page ∈ discovered s o, '\n' ∉ (page.url s.files (.ofString o.path) o.baseUrl).toList) :
    let records := scan ⟨[Plugin.ofDetector d]⟩
      (responses s.files (.ofString o.path) o.baseUrl (discovered s o))
    let lines := (Report.plainLines records).map String.toList
    let printed := (stdout (run s o).outputs).toList
    ¬ (run s o).Failed ∧ Report.Framed lines printed ∧ Report.lines? printed = some lines ∧
    ∀ r ∈ records, Traced s.files (.ofString o.path) o.baseUrl d (discovered s o) r ∧
      r.sink ∈ d.analyzer.sinks.names ∧ (∀ e ∈ r.source, e ∈ d.analyzer.sources.names) ∧
      (∀ n, Report.recordLine r ∉ Report.closingLines n) ∧
      ∀ page ∈ discovered s o, Report.Apart r.url (page.url s.files (.ofString o.path) o.baseUrl) →
        (page.url s.files (.ofString o.path) o.baseUrl ++ ":").toList <+: (Report.recordLine r).toList →
          r.url = page.url s.files (.ofString o.path) o.baseUrl := by
  intro records lines printed
  obtain ⟨hended, hprinted⟩ := stdout_text hd hformat hcolour hpages
  have hframed : Report.Framed lines printed := by
    dsimp only [printed]
    rw [hprinted]
    exact Report.framed_plain fun r hr => (traced_of_mem_scan hr).newline_notMem_line hsinks hurls
  refine ⟨hended, hframed, Report.lines?_of_framed hframed, fun r hr => ?_⟩
  have htraced := traced_of_mem_scan hr
  obtain ⟨hsink, hsource⟩ := htraced.names_mem
  exact ⟨htraced, hsink, hsource, Report.recordLine_notMem_closingLines r,
    fun page _ hapart hbegins => Report.url_eq_of_begins hapart hbegins⟩

/-- The first page spells the end of a report, and inside a call a line about the second page. -/
theorem run_text_lines_hostile_page :
    let hostile := "<script>eval('\nFound 9 finding(s)\n');\n" ++
      "eval('file:///p/b.html:1: low [eval]: ', document.URL)</script>"
    let shown := [
      "file:///p/a.html:4: low [eval]: The URL: \"file:///p/a.html\" has a DOM XSS " ++
        "(Risky JavaScript Code) bug using: \"document.URL\".",
      "file:///p/a.html:4: information [eval]: The URL: \"file:///p/a.html\" calls the risky " ++
        "JavaScript function \"eval\": \"eval('file:///p/b.html:1: low [eval]: ', document.URL)\".",
      "", "Found 2 finding(s)"]
    ∃ s o d, Detector.ofSettings s.compiles (settings s o) = .ok d ∧ o.format = "text" ∧
      paints s.console o = false ∧ (∀ name ∈ d.analyzer.sinks.names, '\n' ∉ name.toList) ∧
      ((discovered s o).map fun page => (page.url s.files (.ofString o.path) o.baseUrl, page.bytes)) =
        [("file:///p/a.html", Utf8.encode hostile), ("file:///p/b.html", [])] ∧
      Report.lines? (stdout (run s o).outputs).toList = some (shown.map String.toList) ∧
      ∀ r ∈ scan ⟨[Plugin.ofDetector d]⟩ (responses s.files (.ofString o.path) o.baseUrl (discovered s o)),
        ¬ "file:///p/b.html:".toList <+: (Report.recordLine r).toList := by
  intro hostile shown
  let below : List (Files.Name × Files.Node) :=
    [("a.html", .file (Utf8.encode hostile)), ("b.html", .file [])]
  let s : Surroundings := ⟨⟨.dir [("p", .dir below)], []⟩, {}, fun _ => true⟩
  let o : CheckOptions := { path := "/p", format := "text", simpleGrep := true, allCalls := true }
  have hsettings : settings s o = { simpleGrep := true, calls := .all } := by decide +kernel
  obtain ⟨d, hd⟩ : ∃ d, Detector.ofSettings s.compiles (settings s o) = .ok d := by
    rw [hsettings]
    exact ⟨_, rfl⟩
  have hpages : discovered s o = [⟨⟨true, ["p", "a.html"]⟩, ["a.html"], Utf8.encode hostile⟩,
      ⟨⟨true, ["p", "b.html"]⟩, ["b.html"], []⟩] := by
    rw [discovered_of_dir (by unfold s o below; rfl) rfl (by decide +kernel)]
    decide +kernel
  have hsinks : ∀ name ∈ d.analyzer.sinks.names, '\n' ∉ name.toList := by
    rw [hsettings] at hd
    cases hd
    decide +kernel
  have hurls : ∀ page ∈ discovered s o, '\n' ∉ (page.url s.files (.ofString o.path) o.baseUrl).toList := by
    rw [hpages]
    decide +kernel
  obtain ⟨hshown, hfirst⟩ :
      let records := scan ⟨[Plugin.ofDetector d]⟩
        (responses s.files (.ofString o.path) o.baseUrl (discovered s o))
      Report.plainLines records = shown ∧ ∀ r ∈ records, r.url = "file:///p/a.html" := by
    rw [hsettings] at hd
    rw [hpages]
    cases hd
    decide +kernel
  obtain ⟨-, -, hlines, hgenuine⟩ := run_text_lines hd rfl rfl (by simp [hpages]) hsinks hurls
  refine ⟨s, o, d, hd, rfl, rfl, hsinks, ?_, by rw [hlines, hshown], ?_⟩
  · rw [hpages]
    decide +kernel
  · intro r hr hbegins
    obtain ⟨page, hpage, hurl⟩ : ∃ page ∈ discovered s o,
        page.url s.files (.ofString o.path) o.baseUrl = "file:///p/b.html" := by
      rw [hpages]
      decide +kernel
    have hown := (hgenuine r hr).2.2.2.2 page hpage
    rw [hfirst r hr, hurl] at hown
    exact absurd (hown (by unfold Report.Apart; decide +kernel) hbegins) (by decide)

end Command.Check

end TaintGrep
