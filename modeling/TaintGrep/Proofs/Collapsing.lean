import TaintGrep.Proofs.PageRecords
import TaintGrep.Proofs.SinkCalls
import TaintGrep.Proofs.UniqueViews

/-! Collapsing the records of a scan never hides a tainted sink behind a mere call. The snippet of a call
ends with a closing parenthesis, and no source that taints a call contains one, so the snippet tells the
kind of a record; and a page's tainted sinks are recorded before its calls. -/

namespace TaintGrep

open TaintGrep.Text

lemma Finding.kind_eq_of_source_eq {f g : Finding} (h : f.source = g.source) : f.kind = g.kind := by
  cases f <;> cases g <;> first | rfl | cases h

lemma Finding.source_eq_of_highlight_eq {f g : Finding} (hk : f.kind = g.kind)
    (h : f.highlight = g.highlight) : f.source = g.source := by
  cases f with
  | tainted _ source =>
    cases g with
    | tainted _ source' => exact congrArg some h
    | riskyCall => cases hk
  | riskyCall =>
    cases g with
    | tainted => cases hk
    | riskyCall => rfl

namespace Record

def OfKind (k : Finding.Kind) (r : Record) : Prop :=
  ∃ url id f, Finding.kind f = k ∧ r = ofFinding url id f

lemma OfKind.kind_eq {k : Finding.Kind} {url : String} {id : Nat} {f : Finding}
    (h : (ofFinding url id f).OfKind k) : f.kind = k := by
  obtain ⟨url', id', g, hg, he⟩ := h
  have hs := congrArg Record.source he
  rw [ofFinding_source, ofFinding_source] at hs
  rw [Finding.kind_eq_of_source_eq hs, hg]

lemma OfKind.severity_eq {r : Record} (h : r.OfKind .taintedSink) : r.severity = .low := by
  obtain ⟨url, id, f, hf, rfl⟩ := h
  rw [ofFinding, hf]
  rfl

end Record

lemma Call.parenthesis_mem_text {m : ScanMode} {name script : String} {c : Call}
    (h : c ∈ find m name script) : ')' ∈ c.text.toList := by
  have hall : c ∈ find .all name script := (ScanMode.keep_sublist m _).subset h
  obtain ⟨s, -, htext, -⟩ := startsAt_of_mem_find hall
  rw [htext, String.toList_ofList]
  simp [Spelling.chars]

lemma Analyzer.source_of_mem_tainted {a : Analyzer} {r : Region} {f : Finding} (h : f ∈ a.tainted r) :
    ∃ source, f.source = some source ∧ ∀ x ∈ source.toList, x ≠ ')' ∧ x ≠ '\n' := by
  obtain ⟨c, hc, h⟩ := List.mem_flatMap.mp h
  obtain ⟨e, he, rfl⟩ := List.mem_map.mp h
  obtain ⟨sink, -, hfind⟩ := List.mem_flatMap.mp hc
  have hin : e.toList <:+: c.arguments.toList := occursIn_iff.mp (List.mem_filter.mp he).2
  exact ⟨e, rfl, fun x hx => Call.argument_of_mem_find hfind x (hin.subset hx)⟩

namespace Detector

variable {d : Detector} {body body' : String} {f g : Finding}

lemma of_mem_smartGrep (h : f ∈ d.smartGrep body) :
    ∃ source, f.source = some source ∧ ∀ x ∈ source.toList, x ≠ ')' ∧ x ≠ '\n' := by
  obtain ⟨r, -, h⟩ := List.mem_flatMap.mp h
  exact Analyzer.source_of_mem_tainted h

lemma of_mem_simpleGrep (h : f ∈ d.simpleGrep body) : f.source = none ∧ ')' ∈ f.call.toList := by
  obtain ⟨r, -, h⟩ := List.mem_flatMap.mp h
  obtain ⟨c, hc, rfl⟩ := List.mem_map.mp h
  obtain ⟨sink, -, hfind⟩ := List.mem_flatMap.mp hc
  exact ⟨rfl, Call.parenthesis_mem_text hfind⟩

lemma mem_findings (h : f ∈ d.findings body) : f ∈ d.smartGrep body ∨ f ∈ d.simpleGrep body := by
  rw [findings, List.mem_append] at h
  rcases h with h | h <;> split at h
  · exact Or.inl h
  · cases h
  · exact Or.inr h
  · cases h

lemma kind_of_mem_smartGrep (h : f ∈ d.smartGrep body) : f.kind = .taintedSink := by
  obtain ⟨source, hs, -⟩ := of_mem_smartGrep h
  rw [f.tainted_iff, hs, Option.isSome_some]

lemma kind_of_mem_simpleGrep (h : f ∈ d.simpleGrep body) : f.kind = .riskyCall :=
  f.riskyCall_iff.mpr (of_mem_simpleGrep h).1

lemma mem_highlight_iff (h : f ∈ d.findings body) :
    ')' ∈ f.highlight.toList ↔ f.kind = .riskyCall := by
  rcases mem_findings h with h | h
  · obtain ⟨source, hs, havoids⟩ := of_mem_smartGrep h
    have hmem : ')' ∉ source.toList := fun hx => (havoids _ hx).1 rfl
    simpa [Finding.highlight, f.riskyCall_iff, hs] using hmem
  · obtain ⟨hs, hmem⟩ := of_mem_simpleGrep h
    simpa [Finding.highlight, f.riskyCall_iff, hs] using hmem

lemma kind_eq_of_highlight_eq (hf : f ∈ d.findings body) (hg : g ∈ d.findings body')
    (h : f.highlight = g.highlight) : f.kind = g.kind := by
  have hiff := mem_highlight_iff hf
  rw [h, mem_highlight_iff hg] at hiff
  cases hk : f.kind <;> cases hk' : g.kind <;> simp_all

variable {p : Response} {ps : List Response}

lemma mem_flatMap_records {r : Record} (h : r ∈ ps.flatMap d.records) :
    ∃ p body f, f ∈ d.findings body ∧ r = Record.ofFinding (Response.url p) p.id f := by
  obtain ⟨p, -, hr⟩ := List.mem_flatMap.mp h
  obtain ⟨-, body, -, f, hf, hr⟩ := mem_records.mp hr
  exact ⟨p, body, f, hf, hr⟩

lemma key_ne_of_ofKind {a b : Record} (ha : a ∈ ps.flatMap d.records)
    (hb : b ∈ ps.flatMap d.records) (hka : a.OfKind .taintedSink) (hkb : b.OfKind .riskyCall) :
    (a.url, a.highlight) ≠ (b.url, b.highlight) := by
  intro hkey
  obtain ⟨p, body, f, hf, rfl⟩ := mem_flatMap_records ha
  obtain ⟨q, body', g, hg, rfl⟩ := mem_flatMap_records hb
  have hh : f.highlight = g.highlight := by simpa using (Prod.mk.inj hkey).2
  have hk := kind_eq_of_highlight_eq hf hg hh
  rw [hka.kind_eq, hkb.kind_eq] at hk
  cases hk

lemma exists_mem_unique_var (hp : p ∈ ps) (hbody : p.shown? = some body) (hf : f ∈ d.findings body) :
    ∃ r ∈ Record.unique .var (ps.flatMap d.records), r.OfKind f.kind ∧ r.url = p.url ∧
      r.source = f.source ∧ r.highlight = [f.highlight] := by
  obtain ⟨htextual, htext⟩ := Response.shown?_eq_some_iff.mp hbody
  have hmem : Record.ofFinding p.url p.id f ∈ ps.flatMap d.records :=
    List.mem_flatMap.mpr ⟨p, hp, mem_records.mpr ⟨htextual, body, htext, f, hf, rfl⟩⟩
  obtain ⟨r, hr, hkey⟩ := Record.exists_mem_unique .var hmem
  obtain ⟨q, body', g, hg, rfl⟩ := mem_flatMap_records ((Record.unique_sublist _ _).subset hr)
  simp only [Uniqueness.key?, Record.ofFinding_url, Record.ofFinding_highlight, Option.some.injEq,
    Prod.mk.injEq, List.cons.injEq, and_true] at hkey
  obtain ⟨hurl, hhighlight⟩ := hkey
  have hkind := kind_eq_of_highlight_eq hg hf hhighlight
  have hsource := Finding.source_eq_of_highlight_eq hkind hhighlight
  exact ⟨_, hr, ⟨q.url, q.id, g, hkind, rfl⟩, by simpa using hurl, by simpa using hsource,
    by simpa using hhighlight⟩

lemma onPage_records (url : String) (q : Response) :
    Record.onPage url (d.records q) = if q.url = url then d.records q else [] := by
  rw [Record.onPage]
  split
  · rename_i hq
    exact List.filter_eq_self.mpr fun r hr => by simpa [url_of_mem_records hr] using hq
  · rename_i hq
    exact List.filter_eq_nil_iff.mpr fun r hr => by simpa [url_of_mem_records hr] using hq

lemma onPage_flatMap_records (hps : ps.Pairwise fun p q => p.url ≠ q.url) (hp : p ∈ ps) :
    Record.onPage p.url (ps.flatMap d.records) = d.records p := by
  induction ps with
  | nil => cases hp
  | cons q ps ih =>
    obtain ⟨hq, hps⟩ := List.pairwise_cons.mp hps
    rw [List.flatMap_cons, Record.onPage_append, onPage_records]
    rcases List.mem_cons.mp hp with rfl | hp
    · have hrest : Record.onPage p.url (ps.flatMap d.records) = [] := by
        refine List.filter_eq_nil_iff.mpr fun r hr => ?_
        obtain ⟨q, hqs, hr⟩ := List.mem_flatMap.mp hr
        simpa [url_of_mem_records hr] using (hq q hqs).symm
      rw [if_pos rfl, hrest, List.append_nil]
    · rw [if_neg (hq p hp), ih hps hp, List.nil_append]

lemma onPage_unique_url (hps : ps.Pairwise fun p q => p.url ≠ q.url) (hp : p ∈ ps)
    (hbody : p.shown? = some body) (hsmart : d.smart = true) (hf : d.smartGrep body ≠ []) :
    ∃ r, Record.onPage p.url (Record.unique .url (ps.flatMap d.records)) = [r] ∧
      r.OfKind .taintedSink := by
  obtain ⟨f, fs, hfs⟩ := List.exists_cons_of_ne_nil hf
  obtain ⟨htextual, htext⟩ := Response.shown?_eq_some_iff.mp hbody
  have hrecords : d.records p = (d.findings body).map (Record.ofFinding p.url p.id) := by
    rw [records, if_pos htextual, htext]
  rw [findings, if_pos hsmart, hfs, List.cons_append, List.map_cons] at hrecords
  obtain ⟨rs, hrs⟩ : ∃ rs, d.records p = Record.ofFinding p.url p.id f :: rs := ⟨_, hrecords⟩
  have hurl : ∀ a ∈ rs, a.url = (Record.ofFinding p.url p.id f).url := by
    intro a ha
    rw [Record.ofFinding_url]
    exact url_of_mem_records (hrs ▸ List.mem_cons_of_mem _ ha)
  have hkind : f.kind = .taintedSink := kind_of_mem_smartGrep (hfs ▸ List.mem_cons_self)
  rw [Record.onPage_unique, onPage_flatMap_records hps hp, hrs, Record.unique_url_cons hurl]
  exact ⟨_, rfl, p.url, p.id, f, hkind, rfl⟩

theorem collapse_keeps_tainted {compiles : String → Bool} {s : Settings} {e : Engine}
    (hd : ofSettings compiles s = .ok d) (he : Engine.ofSettings compiles s = .ok e)
    (hsmart : s.smartGrep = true) (hsimple : s.simpleGrep = true)
    (ps : List Response) :
    let kb := ps.foldl e.grep KnowledgeBase.empty
    (∀ a ∈ kb.get category, ∀ b ∈ kb.get category, a.OfKind .taintedSink → b.OfKind .riskyCall →
      (a.url, a.highlight) ≠ (b.url, b.highlight)) ∧
    (∀ p ∈ ps, ∀ body, p.shown? = some body → ∀ f ∈ d.smartGrep body, ∃ source, f.source = some source ∧
      ∃ r ∈ kb.unique category .var,
        r.OfKind .taintedSink ∧ r.url = p.url ∧ r.source = some source) ∧
    (∀ p ∈ ps, ∀ body, p.shown? = some body → ∀ f ∈ d.simpleGrep body,
      ∃ r ∈ kb.unique category .var,
        r.OfKind .riskyCall ∧ r.url = p.url ∧ r.highlight = [f.call]) ∧
    ((ps.Pairwise fun p q => p.url ≠ q.url) →
      ∀ p ∈ ps, ∀ body, p.shown? = some body → d.smartGrep body ≠ [] →
        ∃ r, Record.onPage p.url (kb.unique category .url) = [r] ∧
          r.OfKind .taintedSink ∧ r.severity = .low) := by
  intro kb
  obtain ⟨d', hd', rfl⟩ := Engine.ofSettings_eq_ok he
  obtain rfl : d = d' := Except.ok.inj (hd.symm.trans hd')
  obtain ⟨hdsmart, hdsimple, -⟩ := ofSettings_eq_ok hd
  rw [hsmart] at hdsmart
  rw [hsimple] at hdsimple
  have hkb : kb.get category = ps.flatMap d.records := by
    simpa using Engine.get_foldl_grep d KnowledgeBase.empty ps
  simp only [KnowledgeBase.unique, hkb]
  refine ⟨fun a ha b hb => key_ne_of_ofKind ha hb, ?_, ?_, ?_⟩
  · intro p hp body hbody f hf
    have hmem : f ∈ d.findings body := by simp [findings, hdsmart, hf]
    obtain ⟨source, hs, -⟩ := of_mem_smartGrep hf
    obtain ⟨r, hr, hkind, hurl, hsource, -⟩ := exists_mem_unique_var hp hbody hmem
    rw [kind_of_mem_smartGrep hf] at hkind
    exact ⟨source, hs, r, hr, hkind, hurl, hsource.trans hs⟩
  · intro p hp body hbody f hf
    have hmem : f ∈ d.findings body := by simp [findings, hdsimple, hf]
    obtain ⟨r, hr, hkind, hurl, -, hhighlight⟩ := exists_mem_unique_var hp hbody hmem
    rw [kind_of_mem_simpleGrep hf] at hkind
    rw [Finding.highlight, (of_mem_simpleGrep hf).1] at hhighlight
    exact ⟨r, hr, hkind, hurl, hhighlight⟩
  · intro hps p hp body hbody hf
    obtain ⟨r, hr, hkind⟩ := onPage_unique_url hps hp hbody hdsmart hf
    exact ⟨r, hr, hkind, hkind.severity_eq⟩

theorem collapse_keeps_tainted_source_like_call :
    ∃ s d e p body, s.patterns.sources = some ["eval(document.URL)", "document.URL"] ∧
      ofSettings (fun _ => true) s = .ok d ∧ Engine.ofSettings (fun _ => true) s = .ok e ∧
      Response.shown? p = some body ∧
      d.smartGrep body ≠ [] ∧ (∃ f ∈ d.simpleGrep body, f.call = "eval(document.URL)") ∧
      ∃ r, Record.onPage p.url
          (([p].foldl e.grep KnowledgeBase.empty).unique category .url) = [r] ∧
        r.OfKind .taintedSink ∧ r.severity = .low := by
  have hbody : (Response.html "a" 0 "<script>eval(document.URL)</script>").shown? =
      some "<script>eval(document.URL)</script>" := by rfl
  let s : Settings :=
    { simpleGrep := true, patterns := { sources := some ["eval(document.URL)", "document.URL"] } }
  obtain ⟨d, hd⟩ : ∃ d, ofSettings (fun _ => true) s = .ok d := ⟨_, rfl⟩
  obtain ⟨e, he⟩ : ∃ e, Engine.ofSettings (fun _ => true) s = .ok e := ⟨_, rfl⟩
  have hsmart : d.smartGrep "<script>eval(document.URL)</script>" ≠ [] := by
    cases hd
    decide +kernel
  have hsimple : ∃ f ∈ d.simpleGrep "<script>eval(document.URL)</script>",
      f.call = "eval(document.URL)" := by
    cases hd
    decide +kernel
  exact ⟨s, d, e, _, _, rfl, hd, he, hbody, hsmart, hsimple,
    (collapse_keeps_tainted hd he rfl rfl _).2.2.2 (List.pairwise_singleton _ _) _ List.mem_cons_self
      _ hbody hsmart⟩

end Detector

end TaintGrep
