import Mathlib.Tactic.Lemma
import TaintGrep.Engine.Plugin

/-! The records that an engine made from settings keeps of a page: those of the detector's findings, all
with the address of the page and the snippet of the finding. -/

namespace TaintGrep

def Finding.account (url : String) (f : Finding) : String :=
  match f.source with
  | some e => "The URL: \"" ++ url ++ "\" has a DOM XSS (Risky JavaScript Code) bug using: \"" ++ e ++ "\"."
  | none => "The URL: \"" ++ url ++ "\" calls the risky JavaScript function \"" ++ f.sink ++ "\": \"" ++
      f.call ++ "\"."

namespace Record

variable (url : String) (id : Nat) (f : Finding)

@[simp] lemma ofFinding_url : (ofFinding url id f).url = url := by
  rw [ofFinding]
  cases f.kind <;> rfl

@[simp] lemma ofFinding_highlight : (ofFinding url id f).highlight = [f.highlight] := by
  rw [ofFinding]
  cases f.kind <;> rfl

@[simp] lemma ofFinding_source : (ofFinding url id f).source = f.source := by
  rw [ofFinding]
  cases f.kind <;> rfl

@[simp] lemma ofFinding_line : (ofFinding url id f).line = f.line := by
  rw [ofFinding]
  cases f.kind <;> rfl

@[simp] lemma ofFinding_responseId : (ofFinding url id f).responseId = id := by
  rw [ofFinding]
  cases f.kind <;> rfl

@[simp] lemma ofFinding_sink : (ofFinding url id f).sink = f.sink := by
  rw [ofFinding]
  cases f.kind <;> rfl

lemma ofFinding_severity :
    (ofFinding url id f).severity = if f.kind = .taintedSink then .low else .information := by
  rw [ofFinding]
  cases f.kind <;> rfl

lemma ofFinding_description : (ofFinding url id f).description = f.account url := by
  cases f <;> rfl

end Record

namespace Detector

variable {compiles : String → Bool} {s : Settings} {d : Detector}

lemma eq_of_ofSettings (h : ofSettings compiles s = .ok d) :
    ∃ a, Analyzer.ofPatterns compiles s.patterns s.calls = .ok a ∧
      d = ⟨s.scripts, a, s.smartGrep, s.simpleGrep, s.uniqueness⟩ := by
  unfold ofSettings at h
  split at h
  · cases h
  · rename_i a ha
    exact ⟨a, ha, (Except.ok.inj h).symm⟩

lemma ofSettings_eq_ok (h : ofSettings compiles s = .ok d) :
    d.smart = s.smartGrep ∧ d.simple = s.simpleGrep ∧ d.uniqueness = s.uniqueness := by
  obtain ⟨a, -, rfl⟩ := eq_of_ofSettings h
  exact ⟨rfl, rfl, rfl⟩

lemma mem_records {p : Response} {r : Record} : r ∈ d.records p ↔
    p.isTextual = true ∧ ∃ body, p.text = .ok body ∧
      ∃ f ∈ d.findings body, r = Record.ofFinding p.url p.id f := by
  rw [records]
  cases p.isTextual with
  | false => simp
  | true =>
    cases p.text with
    | error e => simp
    | ok body => simp [eq_comm]

lemma url_of_mem_records {p : Response} {r : Record} (h : r ∈ d.records p) : r.url = p.url := by
  obtain ⟨-, body, -, f, -, rfl⟩ := mem_records.mp h
  exact Record.ofFinding_url p.url p.id f

end Detector

namespace Engine

lemma ofSettings_eq_ok {compiles : String → Bool} {s : Settings} {e : Engine}
    (h : ofSettings compiles s = .ok e) :
    ∃ d, Detector.ofSettings compiles s = .ok d ∧ e = ⟨[Plugin.ofDetector d]⟩ := by
  unfold ofSettings at h
  split at h
  · cases h
  · rename_i d hd
    cases h
    exact ⟨d, hd, rfl⟩

lemma finish_detector (d : Detector) (kb : KnowledgeBase) :
    finish ⟨[Plugin.ofDetector d]⟩ kb = kb.unique Detector.category d.uniqueness := by
  simp [finish, Plugin.ofDetector]

lemma ofCategory_map (c category : String) (rs : List Record) :
    ((rs.map (c, ·)).filter fun e => e.1 = category).map Prod.snd =
      if c = category then rs else [] := by
  by_cases h : c = category
  · simp [h, List.filter_map, Function.comp_def]
  · simp [h, List.filter_map, Function.comp_def]

lemma get_grep {e : Engine} {d : Detector} {n : Nat}
    (he : e.plugins = Plugin.ofDetector d :: List.replicate n Plugin.counting)
    (kb : KnowledgeBase) (p : Response) (category : String) :
    (e.grep kb p).get category = kb.get category ++
      ((if Detector.category = category then d.records p else []) ++
        if "seen" = category then List.replicate n (Plugin.seenRecord p) else []) := by
  have happends : (e.plugins.flatMap fun q => q.grep p) = (d.records p).map (Detector.category, ·) ++
      (List.replicate n (Plugin.seenRecord p)).map ("seen", ·) := by
    rw [he, List.flatMap_cons, List.flatMap_replicate]
    simp [Plugin.ofDetector, Plugin.counting]
  rw [grep, happends, KnowledgeBase.get_appendAll, List.filter_append, List.map_append,
    ofCategory_map, ofCategory_map]

lemma get_foldl_grep (d : Detector) (kb : KnowledgeBase) (ps : List Response) :
    (ps.foldl (grep ⟨[Plugin.ofDetector d]⟩) kb).get Detector.category =
      kb.get Detector.category ++ ps.flatMap d.records := by
  induction ps generalizing kb with
  | nil => simp
  | cons p ps ih =>
    have hp : (grep ⟨[Plugin.ofDetector d]⟩ kb p).get Detector.category =
        kb.get Detector.category ++ d.records p := by
      simpa using get_grep (n := 0) rfl kb p Detector.category
    rw [List.foldl_cons, ih, hp, List.flatMap_cons, List.append_assoc]

end Engine

end TaintGrep
