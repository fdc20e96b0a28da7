import TaintGrep.Proofs.Collapsing
import TaintGrep.Proofs.PatternFaults
import TaintGrep.Proofs.ReportTracing

/-! Which sources can be reported. The arguments of a call hold neither a closing parenthesis nor a
newline, so a source with one of them is accepted and never seen again; any other source is reported for
each sink by the call that holds nothing else. -/

namespace TaintGrep

open TaintGrep.Text

lemma Call.find_first_of_spelling? {name script : String} {s : Spelling}
    (h : spelling? name.toList script.toList = some s) :
    find .first name script = [ofSpelling name Place.start s] := by
  rw [find, scan]
  cases hscript : script.toList with
  | nil =>
    obtain ⟨-, rest, hrest⟩ := spelling?_eq_some_iff.mp h
    simp [hscript, Spelling.chars] at hrest
  | cons c cs =>
    rw [hscript] at h
    simp [scanFrom, h]

lemma Call.find_first_call {e : String} (s : String) (h : ')' ∉ e.toList ∧ '\n' ∉ e.toList) :
    ∃ c ∈ find .first s (s ++ "(" ++ e ++ ")"), c.sink = s ∧ c.arguments = e := by
  have hspells : Spelling.Spells ⟨s.toList, [], e.toList⟩ s := by
    refine ⟨rfl, by simp, fun c hc => ⟨?_, ?_⟩⟩
    · rintro rfl
      exact h.1 hc
    · rintro rfl
      exact h.2 hc
  have hscript : (s ++ "(" ++ e ++ ")").toList = Spelling.chars ⟨s.toList, [], e.toList⟩ ++ [] := by
    simp [Spelling.chars]
  rw [find_first_of_spelling? (spelling?_eq_some_iff.mpr ⟨hspells, [], hscript⟩)]
  exact ⟨_, List.mem_singleton.mpr rfl, rfl, String.ofList_toList⟩

lemma notMem_of_avoids {cs : List Char} (h : ∀ x ∈ cs, x ≠ ')' ∧ x ≠ '\n') : ')' ∉ cs ∧ '\n' ∉ cs :=
  ⟨fun hx => (h _ hx).1 rfl, fun hx => (h _ hx).2 rfl⟩

namespace Analyzer

variable {sinks : Registry .sink} {sources : Registry .source} {s e x : String}

lemma exists_mem_taintedIn (hs : s ∈ sinks.names) (he : e ∈ sources.names)
    (h : ')' ∉ e.toList ∧ '\n' ∉ e.toList) :
    ∃ script, ∃ f ∈ taintedIn ⟨sinks, sources, .first⟩ script, f.sink = s ∧ f.source = some e := by
  obtain ⟨c, hc, hsink, harguments⟩ := Call.find_first_call s h
  have hin : e ∈ sourcesIn ⟨sinks, sources, .first⟩ c.arguments := by
    rw [sourcesIn, List.mem_filter, occursIn_iff, harguments]
    exact ⟨he, List.infix_rfl⟩
  have hcall : c ∈ sinkCalls ⟨sinks, sources, .first⟩ ⟨s ++ "(" ++ e ++ ")", 0, 1⟩ :=
    List.mem_flatMap.mpr ⟨s, hs, hc⟩
  exact ⟨_, _, List.mem_flatMap.mpr ⟨c, hcall, List.mem_map_of_mem hin⟩, hsink, rfl⟩

lemma ofPatterns_extraSource {compiles : String → Bool} {p : Patterns} {m : ScanMode} {a : Analyzer}
    (ha : ofPatterns compiles p m = .ok a) (hne : trim x ≠ "") (hnew : trim x ∉ a.sources.names) :
    ofPatterns compiles { p with extraSources := p.extraSources ++ [x] } m =
      .ok { a with sources := ⟨a.sources.names ++ [trim x]⟩ } := by
  simp only [ofPatterns, bind_eq_ok_iff] at ha ⊢
  obtain ⟨base, hbase, sinks, hsinks, base', hbase', sources, hsources, ha⟩ := ha
  cases ha
  have hregister : sources.register compiles x = (.ok (), ⟨sources.names ++ [trim x]⟩) := by
    refine Registry.register_eq_ok_iff.mpr ⟨⟨⟨hne, rfl⟩, fun n hn => ?_⟩, rfl⟩
    exact beq_eq_false_iff_ne.mpr (ne_of_mem_of_not_mem hn hnew)
  refine ⟨base, hbase, sinks, hsinks, base', hbase', ⟨sources.names ++ [trim x]⟩, ?_, rfl⟩
  rw [Registry.registerAll_append, bind_eq_ok_iff]
  exact ⟨sources, hsources, Registry.registerAll_singleton_eq_ok_iff.mpr hregister⟩

end Analyzer

lemma Detector.source_of_mem_findings {d : Detector} {body e : String} {f : Finding}
    (h : f ∈ d.findings body) (he : f.source = some e) : ')' ∉ e.toList ∧ '\n' ∉ e.toList := by
  rcases mem_findings h with h | h
  · obtain ⟨source, hs, havoids⟩ := of_mem_smartGrep h
    obtain rfl := Option.some.inj (hs.symm.trans he)
    exact notMem_of_avoids havoids
  · rw [(of_mem_simpleGrep h).1] at he
    cases he

lemma Command.Check.source_of_mem_scan {compiles : String → Bool} {s : Settings} {engine : Engine}
    {rs : List Response} {r : Record} {e : String}
    (hengine : Engine.ofSettings compiles s = .ok engine) (hr : r ∈ scan engine rs)
    (he : r.source = some e) : ')' ∉ e.toList ∧ '\n' ∉ e.toList := by
  obtain ⟨d, -, rfl⟩ := Engine.ofSettings_eq_ok hengine
  rw [scan_detector] at hr
  obtain ⟨p, body, f, hf, rfl⟩ := Detector.mem_flatMap_records ((Record.unique_sublist _ _).subset hr)
  rw [Record.ofFinding_source] at he
  exact Detector.source_of_mem_findings hf he

namespace Analyzer

theorem source_fires_iff (compiles : String → Bool) :
    (∀ (sinks : Registry .sink) (sources : Registry .source), ∀ s ∈ sinks.names, ∀ e ∈ sources.names,
      ((∃ script, ∃ f ∈ taintedIn ⟨sinks, sources, .first⟩ script, f.sink = s ∧ f.source = some e) ↔
        ')' ∉ e.toList ∧ '\n' ∉ e.toList)) ∧
    ∀ x, ')' ∈ (trim x).toList ∨ '\n' ∈ (trim x).toList →
      (∀ p m a, ofPatterns compiles p m = .ok a → trim x ∉ a.sources.names →
        ofPatterns compiles { p with extraSources := p.extraSources ++ [x] } m =
          .ok { a with sources := ⟨a.sources.names ++ [trim x]⟩ }) ∧
      (∀ (d : Detector) body, ∀ f ∈ d.findings body, f.source ≠ some (trim x)) ∧
      ∀ s engine rs, Engine.ofSettings compiles s = .ok engine →
        ∀ r ∈ Command.Check.scan engine rs, r.source ≠ some (trim x) := by
  constructor
  · intro sinks sources s hs e he
    constructor
    · rintro ⟨script, f, hf, -, hsource⟩
      obtain ⟨e', he', havoids⟩ := source_of_mem_tainted hf
      obtain rfl := Option.some.inj (he'.symm.trans hsource)
      exact notMem_of_avoids havoids
    · exact exists_mem_taintedIn hs he
  · intro x hx
    have hno : ¬ (')' ∉ (trim x).toList ∧ '\n' ∉ (trim x).toList) := by
      rw [not_and_or, not_not, not_not]
      exact hx
    have hne : trim x ≠ "" := by
      intro h
      simp [h] at hx
    refine ⟨fun p m a ha hnew => ofPatterns_extraSource ha hne hnew, ?_, ?_⟩
    · exact fun d body f hf he => hno (Detector.source_of_mem_findings hf he)
    · exact fun s engine rs hengine r hr he => hno (Command.Check.source_of_mem_scan hengine hr he)

/-- A name that holds a parenthesis, a blank and a newline, and a source that is accepted in vain. -/
theorem source_fires_iff_wild_names :
    ∃ sinks sources, Registry.ofNames (fun _ => true) ["f(\n (", " f"] = .ok sinks ∧
      Registry.ofNames (fun _ => true) ["document.URL", "a(b", "a(b)"] = .ok sources ∧
      (∃ script, ∃ f ∈ taintedIn ⟨sinks, sources, .first⟩ script,
        f.sink = "f(\n (" ∧ f.source = some "a(b") ∧
      (¬ ∃ script, ∃ f ∈ taintedIn ⟨sinks, sources, .first⟩ script,
        f.sink = "f(\n (" ∧ f.source = some "a(b)") ∧
      ofPatterns (fun _ => true) { extraSources := ["a(b) "] } .all =
        .ok { sources := ⟨Registry.defaultSources.names ++ ["a(b)"]⟩, calls := .all } ∧
      ∀ (d : Detector) body, ∀ f ∈ d.findings body, f.source ≠ some "a(b)" := by
  obtain ⟨hiff, hnever⟩ := source_fires_iff fun _ => true
  have htrim : trim "a(b) " = "a(b)" := by decide
  have hbarred := hnever "a(b) " (by rw [htrim]; decide)
  rw [htrim] at hbarred
  obtain ⟨haccepted, hunreported, -⟩ := hbarred
  let sinks : Registry .sink := ⟨["f(\n (", "f"]⟩
  let sources : Registry .source := ⟨["document.URL", "a(b", "a(b)"]⟩
  have hs : "f(\n (" ∈ sinks.names := by decide
  refine ⟨sinks, sources, rfl, rfl, ?_, ?_, ?_, hunreported⟩
  · exact (hiff sinks sources _ hs "a(b" (by decide)).mpr (by decide)
  · exact mt (hiff sinks sources _ hs "a(b)" (by decide)).mp (by decide)
  · exact haccepted {} .all { calls := .all } rfl (by decide)

end Analyzer

end TaintGrep
