import Mathlib.Data.List.Flatten
import TaintGrep.Command.Check
import TaintGrep.Proofs.PageRecords
import TaintGrep.Proofs.Registration

/-! Wider settings lose no finding: patterns added at the end, `first` turned into `all` and a grep
switched on leave the findings of a page where they are, in the same order, among others. -/

namespace TaintGrep

def ScanMode.Widens (m m' : ScanMode) : Prop := m = .all → m' = .all

lemma ScanMode.Widens.keep_sublist {α : Type} {m m' : ScanMode} (h : m.Widens m') (l : List α) :
    (m.keep l).Sublist (m'.keep l) := by
  cases m with
  | first =>
    cases m' with
    | first => exact List.Sublist.refl _
    | all => exact ScanMode.keep_sublist .first l
  | all =>
    obtain rfl : m' = .all := h rfl
    exact List.Sublist.refl _

/-- Patterns are added at the end of the given lists and of the extra ones; a list that is not given
stays so. -/
structure Patterns.Widens (p p' : Patterns) : Prop where
  sinks : ∃ more, p'.sinks = p.sinks.map (· ++ more)
  extraSinks : p.extraSinks <+: p'.extraSinks
  sources : ∃ more, p'.sources = p.sources.map (· ++ more)
  extraSources : p.extraSources <+: p'.extraSources

structure Settings.Widens (s s' : Settings) : Prop where
  patterns : s.patterns.Widens s'.patterns
  scripts : s.scripts.Widens s'.scripts
  calls : s.calls.Widens s'.calls
  smartGrep : s.smartGrep = true → s'.smartGrep = true
  simpleGrep : s.simpleGrep = true → s'.simpleGrep = true

lemma Registry.names_sublist {compiles : String → Bool} {k : PatternKind}
    {builtIn base base' r r' : Registry k}
    {given given' : Option (List String)} {extra extra' : List String}
    (hbase : ofGiven compiles given builtIn = .ok base) (hr : base.registerAll compiles extra = .ok r)
    (hbase' : ofGiven compiles given' builtIn = .ok base')
    (hr' : base'.registerAll compiles extra' = .ok r')
    (hgiven : ∃ more, given' = given.map (· ++ more)) (hextra : extra <+: extra') :
    r.names.Sublist r'.names := by
  obtain ⟨more, rfl⟩ := hgiven
  rw [names_of_given hbase hr, names_of_given hbase' hr']
  refine List.Sublist.append ?_ (hextra.map Text.trim).sublist
  cases given with
  | none => exact List.Sublist.refl _
  | some names => simp

namespace Analyzer

structure Widens (a a' : Analyzer) : Prop where
  sinks : a.sinks.names.Sublist a'.sinks.names
  sources : a.sources.names.Sublist a'.sources.names
  calls : a.calls.Widens a'.calls

lemma widens_of_ofPatterns {compiles : String → Bool} {p p' : Patterns} {m m' : ScanMode}
    {a a' : Analyzer} (h : ofPatterns compiles p m = .ok a) (h' : ofPatterns compiles p' m' = .ok a')
    (hp : p.Widens p') (hm : m.Widens m') : a.Widens a' := by
  simp only [ofPatterns, bind_eq_ok_iff] at h h'
  obtain ⟨base, hbase, sinks, hsinks, sourceBase, hsourceBase, sources, hsources, ha⟩ := h
  obtain ⟨base', hbase', sinks', hsinks', sourceBase', hsourceBase', sources', hsources', ha'⟩ := h'
  cases ha
  cases ha'
  exact ⟨Registry.names_sublist hbase hsinks hbase' hsinks' hp.sinks hp.extraSinks,
    Registry.names_sublist hsourceBase hsources hsourceBase' hsources' hp.sources hp.extraSources, hm⟩

variable {a a' : Analyzer}

lemma Widens.sinkCalls_sublist (h : a.Widens a') (r : Region) :
    (a.sinkCalls r).Sublist (a'.sinkCalls r) := by
  have hcalls : (a.sinkCalls r).Sublist
      (a.sinks.names.flatMap fun sink => Call.find a'.calls sink r.text) :=
    List.Sublist.flatMap_right _ fun sink _ => h.calls.keep_sublist _
  exact hcalls.trans (h.sinks.flatMap _)

lemma Widens.tainted_sublist (h : a.Widens a') (r : Region) : (a.tainted r).Sublist (a'.tainted r) := by
  have hsources : (a.tainted r).Sublist ((a.sinkCalls r).flatMap fun c =>
      (a'.sourcesIn c.arguments).map fun e => finding r c (some e)) :=
    List.Sublist.flatMap_right _ fun c _ => (h.sources.filter _).map _
  exact hsources.trans ((h.sinkCalls_sublist r).flatMap _)

lemma Widens.risky_sublist (h : a.Widens a') (r : Region) : (a.risky r).Sublist (a'.risky r) :=
  (h.sinkCalls_sublist r).map _

end Analyzer

namespace Detector

structure Widens (d d' : Detector) : Prop where
  scripts : d.scripts.Widens d'.scripts
  analyzer : d.analyzer.Widens d'.analyzer
  smart : d.smart = true → d'.smart = true
  simple : d.simple = true → d'.simple = true

variable {d d' : Detector}

lemma widens_of_ofSettings {compiles : String → Bool} {s s' : Settings} (h : ofSettings compiles s = .ok d)
    (h' : ofSettings compiles s' = .ok d') (hs : s.Widens s') : d.Widens d' := by
  obtain ⟨a, ha, rfl⟩ := eq_of_ofSettings h
  obtain ⟨a', ha', rfl⟩ := eq_of_ofSettings h'
  exact ⟨hs.scripts, Analyzer.widens_of_ofPatterns ha ha' hs.patterns hs.calls, hs.smartGrep,
    hs.simpleGrep⟩

lemma flatMap_regions_sublist {f g : Region → List Finding} (h : d.scripts.Widens d'.scripts)
    (hfg : ∀ r, (f r).Sublist (g r)) (body : String) :
    ((Script.regions d.scripts body).flatMap f).Sublist ((Script.regions d'.scripts body).flatMap g) :=
  (List.Sublist.flatMap_right _ fun r _ => hfg r).trans ((h.keep_sublist _).flatMap g)

lemma sublist_ite {b b' : Bool} {l l' : List Finding} (hb : b = true → b' = true)
    (h : l.Sublist l') : (if b then l else []).Sublist (if b' then l' else []) := by
  cases b with
  | false => exact List.nil_sublist _
  | true => simpa [hb rfl] using h

lemma Widens.findings_sublist (h : d.Widens d') (body : String) :
    (d.findings body).Sublist (d'.findings body) := by
  have hsmart : (d.smartGrep body).Sublist (d'.smartGrep body) :=
    flatMap_regions_sublist h.scripts h.analyzer.tainted_sublist body
  have hsimple : (d.simpleGrep body).Sublist (d'.simpleGrep body) :=
    flatMap_regions_sublist h.scripts h.analyzer.risky_sublist body
  exact (sublist_ite h.smart hsmart).append (sublist_ite h.simple hsimple)

end Detector

lemma Settings.widens_override (s : Settings) (o : Command.CheckOptions) : s.Widens (o.override s) where
  patterns := ⟨⟨[], by simp [Command.CheckOptions.override]⟩, List.prefix_rfl,
    ⟨[], by simp [Command.CheckOptions.override]⟩, List.prefix_rfl⟩
  scripts h := by simp [Command.CheckOptions.override, h]
  calls h := by simp [Command.CheckOptions.override, h]
  smartGrep h := h
  simpleGrep h := by simp [Command.CheckOptions.override, h]

theorem Detector.findings_widen (compiles : String → Bool) (s : Settings) :
    (∀ o : Command.CheckOptions, s.Widens (o.override s)) ∧
      ∀ s', s.Widens s' → ∀ d d', ofSettings compiles s = .ok d → ofSettings compiles s' = .ok d' →
        ∀ body, (d.findings body).Sublist (d'.findings body) := by
  refine ⟨s.widens_override, fun s' hs d d' hd hd' body => ?_⟩
  have hwide : d.Widens d' := widens_of_ofSettings hd hd' hs
  exact hwide.findings_sublist body

theorem Detector.findings_widen_all_changes :
    ∃ s s' d d' body, Settings.Widens s s' ∧ ofSettings (fun _ => true) s = .ok d ∧
      ofSettings (fun _ => true) s' = .ok d' ∧ (d.findings body).length = 1 ∧ (d'.findings body).length = 8 ∧
      (d.findings body).Sublist (d'.findings body) := by
  let s : Settings := { patterns := { sinks := some ["eval"], extraSinks := ["setTimeout"] } }
  let s' : Settings :=
    { patterns :=
        { sinks := some ["eval", "execScript"], extraSinks := ["setTimeout", "setInterval"]
          extraSources := ["location.hash"] }
      scripts := .all, calls := .all, simpleGrep := true }
  have hs : s.Widens s' :=
    ⟨⟨⟨["execScript"], rfl⟩, ⟨["setInterval"], rfl⟩, ⟨[], rfl⟩, ⟨["location.hash"], rfl⟩⟩,
      fun _ => rfl, fun _ => rfl, fun _ => rfl, fun _ => rfl⟩
  obtain ⟨d, hd⟩ : ∃ d, ofSettings (fun _ => true) s = .ok d := ⟨_, rfl⟩
  obtain ⟨d', hd'⟩ : ∃ d, ofSettings (fun _ => true) s' = .ok d := ⟨_, rfl⟩
  refine ⟨s, s', d, d', "<script>setTimeout(document.URL); setTimeout(location.hash)</script>" ++
    "<script>execScript(a); setInterval(document.URL + location.hash)</script>", hs, hd, hd', ?_, ?_,
    (findings_widen _ s).2 s' hs d d' hd hd' _⟩
  · cases hd
    decide +kernel
  · cases hd'
    decide +kernel

end TaintGrep
