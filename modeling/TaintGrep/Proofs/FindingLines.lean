import TaintGrep.Engine.Detector
import TaintGrep.Proofs.Encoding
import TaintGrep.Proofs.ScriptRegions
import TaintGrep.Proofs.SinkCalls

/-! The line of a finding is the line of the page where its call stands: the newlines before the region
and those in the region before the call add up to those of the page before the call. -/

namespace TaintGrep.Detector

open TaintGrep.Text

variable {d : Detector} {body : String} {r : Region} {c : Call}

lemma call_in_page (hr : r ∈ Script.regions d.scripts body) (hc : c ∈ d.analyzer.sinkCalls r) :
    ∃ passed rest, body.toList = passed ++ (c.text.toList ++ rest) ∧
      byteLength passed = r.offset + c.offset ∧ r.lineAt? c.offset = some (1 + newlines passed) := by
  obtain ⟨before, after, hbody, hoffset, hline⟩ := Script.mem_regions hr
  obtain ⟨sink, -, hfind⟩ := List.mem_flatMap.mp hc
  have hall : c ∈ Call.find .all sink r.text := (ScanMode.keep_sublist d.analyzer.calls _).subset hfind
  obtain ⟨s, ⟨-, rest, passed, hpassed, hlen⟩, htext, -⟩ := Call.startsAt_of_mem_find hall
  refine ⟨before ++ passed, rest ++ after, ?_, ?_, ?_⟩
  · rw [hbody, hpassed, htext]
    simp
  · rw [byteLength_append, hoffset, hlen]
  · rw [Region.lineAt?, hpassed, ← hlen, newlinesWithin?_append, hline]
    simp [Nat.add_assoc]

lemma exists_finding_of_mem {f : Finding}
    (hf : f ∈ d.smartGrep body ∨ f ∈ d.simpleGrep body ∨ f ∈ d.findings body) :
    ∃ r ∈ Script.regions d.scripts body, ∃ c ∈ d.analyzer.sinkCalls r, ∃ source,
      f = Analyzer.finding r c source ∧ ∀ e ∈ source, e ∈ d.analyzer.sourcesIn c.arguments := by
  have hsmart : f ∈ d.smartGrep body ∨ f ∈ d.simpleGrep body := by
    rcases hf with hf | hf | hf
    · exact Or.inl hf
    · exact Or.inr hf
    · rw [findings, List.mem_append] at hf
      rcases hf with hf | hf <;> split at hf
      · exact Or.inl hf
      · cases hf
      · exact Or.inr hf
      · cases hf
  rcases hsmart with hf | hf
  · obtain ⟨r, hr, hf⟩ := List.mem_flatMap.mp hf
    obtain ⟨c, hc, hf⟩ := List.mem_flatMap.mp hf
    obtain ⟨e, he, rfl⟩ := List.mem_map.mp hf
    exact ⟨r, hr, c, hc, some e, rfl, by simpa using he⟩
  · obtain ⟨r, hr, hf⟩ := List.mem_flatMap.mp hf
    obtain ⟨c, hc, rfl⟩ := List.mem_map.mp hf
    exact ⟨r, hr, c, hc, none, rfl, by simp⟩

lemma exists_call_of_mem {f : Finding}
    (hf : f ∈ d.smartGrep body ∨ f ∈ d.simpleGrep body ∨ f ∈ d.findings body) :
    ∃ r ∈ Script.regions d.scripts body, ∃ c ∈ d.analyzer.sinkCalls r,
      f.call = c.text ∧ f.line = (r.lineAt? c.offset).getD r.line := by
  obtain ⟨r, hr, c, hc, source, rfl, -⟩ := exists_finding_of_mem hf
  exact ⟨r, hr, c, hc, Analyzer.finding_call r c source, Analyzer.finding_line r c source⟩

theorem finding_line_true (d : Detector) (body : String) :
    (∀ f, f ∈ d.smartGrep body ∨ f ∈ d.simpleGrep body ∨ f ∈ d.findings body →
      ∃ r ∈ Script.regions d.scripts body, ∃ c ∈ d.analyzer.sinkCalls r, f.call = c.text ∧
        (∃ rest, ContinuesAt body.toList (r.offset + c.offset) (f.call.toList ++ rest)) ∧
        f.line = 1 + ((Utf8.encode body).take (r.offset + c.offset)).count 10) ∧
    ∀ r ∈ Script.regions d.scripts body, ∀ c ∈ d.analyzer.sinkCalls r,
      ∃ n, r.lineAt? c.offset = some n := by
  constructor
  · intro f hf
    obtain ⟨r, hr, c, hc, hcall, hline⟩ := exists_call_of_mem hf
    obtain ⟨passed, rest, hbody, hlen, hat⟩ := call_in_page hr hc
    refine ⟨r, hr, c, hc, hcall, ⟨rest, passed, hcall ▸ hbody, hlen⟩, ?_⟩
    rw [hline, hat, ← hlen, Utf8.take_encode hbody, Utf8.count_encodeChars, Option.getD_some]
  · intro r hr c hc
    obtain ⟨passed, -, -, -, hat⟩ := call_in_page hr hc
    exact ⟨_, hat⟩

theorem finding_line_true_multibyte :
    ∃ d body f, f ∈ smartGrep d body ∧ f.line = 3 ∧
      ∃ r ∈ Script.regions d.scripts body, ∃ c ∈ d.analyzer.sinkCalls r, f.call = c.text ∧
        (∃ rest, ContinuesAt body.toList (r.offset + c.offset) (f.call.toList ++ rest)) ∧
        f.line = 1 + ((Utf8.encode body).take (r.offset + c.offset)).count 10 := by
  have hf : .tainted "eval" "document.URL" "'ß' + document.URL" "eval('ß' + document.URL)" 3 ∈
      smartGrep {} "é\n<ſcript>ß\neval('ß' + document.URL)</script>" := by decide +kernel
  exact ⟨_, _, _, hf, rfl, (finding_line_true _ _).1 _ (Or.inl hf)⟩

end TaintGrep.Detector
