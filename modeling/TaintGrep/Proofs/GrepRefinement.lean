import Mathlib.Data.List.Infix
import TaintGrep.Proofs.Collapsing

/-! Smart grep refines simple grep: in the place of each call stands one finding for each source in its
arguments, in the order of the sources, and nothing if there is none. -/

namespace TaintGrep

open TaintGrep.Text

namespace Finding

def refine (sources : List String) (f : Finding) : List Finding :=
  (sources.filter fun e => e.toList <:+: f.arguments.toList).map fun e =>
    .tainted f.sink e f.arguments f.call f.line

variable {sources : List String} {f g : Finding}

lemma mem_refine : g ∈ refine sources f ↔
    ∃ e ∈ sources, e.toList <:+: f.arguments.toList ∧
      g = .tainted f.sink e f.arguments f.call f.line := by
  simp [refine, and_assoc, eq_comm]

lemma refine_eq_nil (h : ∀ e ∈ sources, ¬ e.toList <:+: f.arguments.toList) :
    refine sources f = [] := by
  rw [refine, List.map_eq_nil_iff, List.filter_eq_nil_iff]
  simpa using h

end Finding

lemma Analyzer.tainted_eq_flatMap (a : Analyzer) (r : Region) :
    a.tainted r = (a.risky r).flatMap (Finding.refine a.sources.names) := by
  have hsources : ∀ c : Call, a.sourcesIn c.arguments =
      a.sources.names.filter fun e => e.toList <:+: c.arguments.toList :=
    fun c => List.filter_congr fun e _ => by
      rw [Bool.eq_iff_iff, occursIn_iff, decide_eq_true_eq]
  simp only [tainted, risky, List.flatMap_map, hsources]
  rfl

namespace Detector

lemma smartGrep_eq_flatMap (d : Detector) (body : String) :
    d.smartGrep body = (d.simpleGrep body).flatMap (Finding.refine d.analyzer.sources.names) := by
  rw [smartGrep, simpleGrep, List.flatMap_assoc]
  exact List.flatMap_congr fun r _ => d.analyzer.tainted_eq_flatMap r

theorem smartGrep_refines (d : Detector) (body : String) :
    (∀ f ∈ d.simpleGrep body, f.kind = .riskyCall) ∧
    d.smartGrep body = (d.simpleGrep body).flatMap (Finding.refine d.analyzer.sources.names) ∧
    (∀ f ∈ d.smartGrep body, f.kind = .taintedSink ∧ ∃ g ∈ d.simpleGrep body, f.sink = g.sink ∧
      f.arguments = g.arguments ∧ f.call = g.call ∧ f.line = g.line) ∧
    ∀ f ∈ d.simpleGrep body,
      (∀ e ∈ d.analyzer.sources.names, ¬ e.toList <:+: f.arguments.toList) →
        f.refine d.analyzer.sources.names = [] := by
  refine ⟨fun f => kind_of_mem_simpleGrep, smartGrep_eq_flatMap d body, fun f hf => ?_,
    fun f _ => Finding.refine_eq_nil⟩
  have hkind := kind_of_mem_smartGrep hf
  rw [smartGrep_eq_flatMap, List.mem_flatMap] at hf
  obtain ⟨g, hg, hf⟩ := hf
  obtain ⟨e, -, -, rfl⟩ := Finding.mem_refine.mp hf
  exact ⟨hkind, g, hg, rfl, rfl, rfl, rfl⟩

theorem smartGrep_refines_nested :
    ∃ s d, ofSettings (fun _ => true) s = .ok d ∧
      let body := "<script>eval(document.URLUnencoded); eval(x)\nopen(f(document.URL))</script>"
      (d.smartGrep body).length = 3 ∧ .riskyCall "eval" "x" "eval(x)" 1 ∈ d.simpleGrep body ∧
        Finding.refine d.analyzer.sources.names (.riskyCall "eval" "x" "eval(x)" 1) = [] ∧
        d.smartGrep body = (d.simpleGrep body).flatMap (Finding.refine d.analyzer.sources.names) := by
  let s : Settings := { calls := .all, patterns := { sinks := some ["eval", "open"] } }
  obtain ⟨d, hd⟩ : ∃ d, ofSettings (fun _ => true) s = .ok d := ⟨_, rfl⟩
  refine ⟨s, d, hd, ?_⟩
  intro body
  obtain ⟨-, heq, -, hnone⟩ := smartGrep_refines d body
  have hlength : (d.smartGrep body).length = 3 := by
    cases hd
    decide +kernel
  have hmem : .riskyCall "eval" "x" "eval(x)" 1 ∈ d.simpleGrep body := by
    cases hd
    decide +kernel
  have hclean : ∀ e ∈ d.analyzer.sources.names, ¬ e.toList <:+: "x".toList := by
    cases hd
    decide +kernel
  exact ⟨hlength, hmem, hnone _ hmem hclean, heq⟩

end Detector

end TaintGrep
