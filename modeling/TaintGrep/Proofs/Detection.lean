import Mathlib.Data.List.Forall2
import TaintGrep.Engine.Detector
import TaintGrep.Proofs.Registration
import TaintGrep.Proofs.ScriptRegions
import TaintGrep.Proofs.SinkCalls

/-! What smart grep finds on a page, by positions: one finding for each region, sink, position and source
such that a call starts there that the source taints, in this order. -/

namespace TaintGrep

open TaintGrep.Text

structure Hit where
  region : Region
  sink : String
  position : Nat
  source : String

namespace Hit

def Occurs (d : Detector) (body : String) (h : Hit) : Prop :=
  h.region ∈ Script.regions .all body ∧ h.sink ∈ d.analyzer.sinks.names ∧
    h.source ∈ d.analyzer.sources.names ∧ Call.Reported h.sink h.region.text h.position ∧
    ∃ s, Call.StartsAt h.sink h.region.text h.position s ∧ h.source.toList <:+: s.arguments

def key (d : Detector) (h : Hit) : List Nat :=
  [h.region.offset, d.analyzer.sinks.names.idxOf h.sink, h.position,
    d.analyzer.sources.names.idxOf h.source]

def Reports (h : Hit) (f : Finding) : Prop :=
  f.kind = .taintedSink ∧ f.sink = h.sink ∧ f.source = some h.source ∧
    ∃ s, Call.StartsAt h.sink h.region.text h.position s ∧
      f.call = String.ofList s.chars ∧ f.arguments = String.ofList s.arguments

end Hit

lemma pairwise_idxOf_lt {l : List String} (h : l.Nodup) :
    l.Pairwise fun a b => l.idxOf a < l.idxOf b := by
  rw [List.pairwise_iff_getElem]
  intro i j hi hj hij
  rwa [h.idxOf_getElem, h.idxOf_getElem]

namespace Analyzer

variable {a : Analyzer} {r : Region}

lemma mem_sinkCalls (ha : a.calls = .all) {c : Call} :
    c ∈ a.sinkCalls r ↔ c.sink ∈ a.sinks.names ∧ c ∈ Call.find .all c.sink r.text := by
  rw [sinkCalls, ha, List.mem_flatMap]
  constructor
  · rintro ⟨sink, hs, hc⟩
    obtain rfl := Call.sink_of_mem_find hc
    exact ⟨hs, hc⟩
  · rintro ⟨hs, hc⟩
    exact ⟨c.sink, hs, hc⟩

lemma sinkCalls_ordered (ha : a.calls = .all) (hn : a.sinks.names.Nodup) :
    (a.sinkCalls r).Pairwise fun c c' =>
      [a.sinks.names.idxOf c.sink, c.offset] < [a.sinks.names.idxOf c'.sink, c'.offset] := by
  rw [sinkCalls, ha, List.pairwise_flatMap]
  constructor
  · intro sink _
    refine (Call.find_increasing sink r.text).imp_of_mem fun {c c'} hc hc' h => ?_
    rw [Call.sink_of_mem_find hc, Call.sink_of_mem_find hc']
    simp [List.cons_lt_cons_iff, h.1]
  · refine (pairwise_idxOf_lt hn).imp fun {sink sink'} h c hc c' hc' => ?_
    rw [Call.sink_of_mem_find hc, Call.sink_of_mem_find hc']
    simp [List.cons_lt_cons_iff, h]

lemma sourcesIn_ordered (hn : a.sources.names.Nodup) (arguments : String) :
    (a.sourcesIn arguments).Pairwise fun e e' =>
      a.sources.names.idxOf e < a.sources.names.idxOf e' :=
  (pairwise_idxOf_lt hn).filter _

end Analyzer

namespace Detector

def traces (d : Detector) (body : String) : List (Region × Call × String) :=
  (Script.regions d.scripts body).flatMap fun r => (d.analyzer.sinkCalls r).flatMap fun c =>
    (d.analyzer.sourcesIn c.arguments).map fun e => (r, c, e)

lemma smartGrep_eq_map (d : Detector) (body : String) :
    d.smartGrep body = (d.traces body).map fun t => Analyzer.finding t.1 t.2.1 (some t.2.2) := by
  simp only [smartGrep, traces, List.map_flatMap, List.map_map, Function.comp_def]
  rfl

variable {compiles : String → Bool} {d : Detector} {body : String}

lemma mem_traces (hs : d.scripts = .all) (hc : d.analyzer.calls = .all) {t : Region × Call × String} :
    t ∈ d.traces body ↔ t.1 ∈ Script.regions .all body ∧ t.2.1.sink ∈ d.analyzer.sinks.names ∧
      t.2.2 ∈ d.analyzer.sources.names ∧ t.2.1 ∈ Call.find .all t.2.1.sink t.1.text ∧
      t.2.2.toList <:+: t.2.1.arguments.toList := by
  obtain ⟨r, c, e⟩ := t
  simp only [traces, hs, List.mem_flatMap, List.mem_map, Analyzer.mem_sinkCalls hc,
    Analyzer.sourcesIn, List.mem_filter, occursIn_iff, Prod.mk.injEq]
  constructor
  · rintro ⟨_, hr, _, ⟨hk, hf⟩, _, ⟨he, ho⟩, rfl, rfl, rfl⟩
    exact ⟨hr, hk, he, hf, ho⟩
  · rintro ⟨hr, hk, he, hf, ho⟩
    exact ⟨r, hr, c, ⟨hk, hf⟩, e, ⟨he, ho⟩, rfl, rfl, rfl⟩

def toHit (t : Region × Call × String) : Hit := ⟨t.1, t.2.1.sink, t.2.1.offset, t.2.2⟩

lemma traces_ordered (hs : d.scripts = .all) (hc : d.analyzer.calls = .all)
    (hk : d.analyzer.sinks.names.Nodup) (he : d.analyzer.sources.names.Nodup) :
    (d.traces body).Pairwise fun t t' => (toHit t).key d < (toHit t').key d := by
  rw [traces, hs, List.pairwise_flatMap]
  constructor
  · intro r _
    rw [List.pairwise_flatMap]
    constructor
    · intro c _
      rw [List.pairwise_map]
      refine (Analyzer.sourcesIn_ordered he c.arguments).imp fun h => ?_
      simp [toHit, Hit.key, List.cons_lt_cons_iff, h]
    · refine (Analyzer.sinkCalls_ordered hc hk).imp fun h t ht t' ht' => ?_
      obtain ⟨e, -, rfl⟩ := List.mem_map.mp ht
      obtain ⟨e', -, rfl⟩ := List.mem_map.mp ht'
      simp only [List.cons_lt_cons_iff, List.not_lt_nil, and_false, or_false] at h
      rcases h with h | ⟨hi, hp⟩
      · simp [toHit, Hit.key, List.cons_lt_cons_iff, h]
      · simp [toHit, Hit.key, List.cons_lt_cons_iff, hi, hp]
  · refine (Script.regions_increasing body).imp fun h t ht t' ht' => ?_
    obtain ⟨c, -, hm⟩ := List.mem_flatMap.mp ht
    obtain ⟨c', -, hm'⟩ := List.mem_flatMap.mp ht'
    obtain ⟨e, -, rfl⟩ := List.mem_map.mp hm
    obtain ⟨e', -, rfl⟩ := List.mem_map.mp hm'
    simp [toHit, Hit.key, List.cons_lt_cons_iff, h]

lemma mem_map_toHit (hs : d.scripts = .all) (hc : d.analyzer.calls = .all) {h : Hit} :
    h ∈ (d.traces body).map toHit ↔ h.Occurs d body := by
  simp only [List.mem_map, mem_traces hs hc, Hit.Occurs]
  constructor
  · rintro ⟨⟨r, c, e⟩, ⟨hr, hk, he, hf, ho⟩, rfl⟩
    obtain ⟨s, hstart, -, ha⟩ := Call.startsAt_of_mem_find hf
    rw [ha, String.toList_ofList] at ho
    exact ⟨hr, hk, he, Call.reported_iff.mpr ⟨c, hf, rfl⟩, s, hstart, ho⟩
  · obtain ⟨r, sink, p, e⟩ := h
    rintro ⟨hr, hk, he, hrep, s, hstart, ho⟩
    obtain ⟨c, hf, rfl⟩ := Call.reported_iff.mp hrep
    obtain rfl := Call.sink_of_mem_find hf
    obtain ⟨s', hstart', -, ha⟩ := Call.startsAt_of_mem_find hf
    obtain rfl := hstart.unique hstart'
    refine ⟨(r, c, e), ⟨hr, hk, he, hf, ?_⟩, rfl⟩
    rwa [ha, String.toList_ofList]

lemma reports_finding {t : Region × Call × String} (hs : d.scripts = .all)
    (hc : d.analyzer.calls = .all) (h : t ∈ d.traces body) :
    (toHit t).Reports (Analyzer.finding t.1 t.2.1 (some t.2.2)) := by
  obtain ⟨-, -, -, hf, -⟩ := (mem_traces hs hc).mp h
  exact ⟨rfl, rfl, rfl, Call.startsAt_of_mem_find hf⟩

lemma of_ofSettings {s : Settings} (h : ofSettings compiles s = .ok d) :
    d.scripts = s.scripts ∧ d.analyzer.calls = s.calls ∧
      d.analyzer.sinks.names.Nodup ∧ d.analyzer.sources.names.Nodup := by
  unfold ofSettings at h
  split at h
  · cases h
  · rename_i a ha
    obtain ⟨hk, he, hm⟩ := Analyzer.distinct_of_ofPatterns ha
    cases h
    exact ⟨rfl, hm, hk.nodup, he.nodup⟩

theorem smartGrep_hits {s : Settings} (hd : ofSettings compiles s = .ok d) (hs : s.scripts = .all)
    (hc : s.calls = .all) (body : String) :
    ∃ hits : List Hit, (∀ h, h ∈ hits ↔ h.Occurs d body) ∧
      hits.Pairwise (fun g h => g.key d < h.key d) ∧
      List.Forall₂ Hit.Reports hits (d.smartGrep body) := by
  obtain ⟨hscripts, hcalls, hk, he⟩ := of_ofSettings hd
  rw [hs] at hscripts
  rw [hc] at hcalls
  refine ⟨(d.traces body).map toHit, fun h => mem_map_toHit hscripts hcalls, ?_, ?_⟩
  · rw [List.pairwise_map]
    exact traces_ordered hscripts hcalls hk he
  · rw [smartGrep_eq_map, List.forall₂_map_left_iff, List.forall₂_map_right_iff, List.forall₂_same]
    intro t ht
    exact reports_finding hscripts hcalls ht

theorem smartGrep_hits_two_regions :
    ∃ d body, ofSettings (fun _ => true) { scripts := .all, calls := .all } = .ok d ∧
      (smartGrep d body).length = 3 ∧ ∃ hits : List Hit, (∀ h, h ∈ hits ↔ h.Occurs d body) ∧
        hits.Pairwise (fun g h => g.key d < h.key d) ∧
        List.Forall₂ Hit.Reports hits (d.smartGrep body) := by
  let s : Settings := { scripts := .all, calls := .all }
  obtain ⟨d, hd⟩ : ∃ d, ofSettings (fun _ => true) s = .ok d := ⟨_, rfl⟩
  refine ⟨d, "<script>eval(document.URL)</script><ſCRIPT\n>EVAL (document.URLUnencoded)</script>", hd,
    ?_, smartGrep_hits hd rfl rfl _⟩
  cases hd
  decide +kernel

end Detector

end TaintGrep
