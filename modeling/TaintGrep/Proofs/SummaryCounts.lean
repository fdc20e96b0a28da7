import Mathlib.Data.Finset.Card
import TaintGrep.Proofs.Collapsing
import TaintGrep.Proofs.FirstRecords
import TaintGrep.Report.Readable

/-! The counts at the end of a report. Programs get one count for each severity, people the number of
tainted sinks and what is left of all records; over a scan these are the numbers of findings of the two
greps. -/

namespace TaintGrep

lemma Record.mem_urls {rs : List Record} {url : String} : url ∈ urls rs ↔ url ∈ rs.map Record.url := by
  induction rs using List.reverseRecOn with
  | nil => rfl
  | append_singleton rs r ih =>
    rw [urls_concat, List.map_append, List.mem_append, ← ih]
    split_ifs with hr
    · simpa using fun h => h ▸ hr
    · simp

lemma Record.length_urls (rs : List Record) :
    (urls rs).length = (rs.map Record.url).toFinset.card := by
  have hnodup : (urls rs).Nodup := (foldl_urls (rs.map Record.url) [] List.nodup_nil).1
  rw [← List.toFinset_card_of_nodup hnodup]
  congr 1
  ext url
  rw [List.mem_toFinset, List.mem_toFinset, mem_urls]

namespace Report

lemma countOf_cons (s : Severity) (r : Record) (rs : List Record) :
    countOf s (r :: rs) = countOf s rs + if r.severity = s then 1 else 0 := by
  simp [countOf, List.countP_cons]

lemma countOf_append (s : Severity) (rs rs' : List Record) :
    countOf s (rs ++ rs') = countOf s rs + countOf s rs' := List.countP_append

lemma tainted_eq (rs : List Record) :
    (prettySummary rs).tainted = countOf .high rs + countOf .medium rs + countOf .low rs := by
  dsimp only [prettySummary]
  induction rs with
  | nil => rfl
  | cons r rs ih =>
    rw [List.countP_cons, ih, countOf_cons, countOf_cons, countOf_cons]
    cases r.severity <;> simp <;> omega

lemma length_eq_tainted_add (rs : List Record) :
    rs.length = (prettySummary rs).tainted + countOf .information rs := by
  dsimp only [prettySummary]
  rw [countOf, rs.length_eq_countP_add_countP fun r => r.severity ≠ .information]
  simp

def found (d : Detector) (s : Severity) (body : String) : List Finding :=
  match s with
  | .low => if d.smart then d.smartGrep body else []
  | .information => if d.simple then d.simpleGrep body else []
  | .medium | .high => []

def total (grep : String → List Finding) (ps : List Response) : Nat :=
  ((ps.filterMap Response.shown?).flatMap grep).length

lemma countOf_of_forall {s s' : Severity} {rs : List Record} (h : ∀ r ∈ rs, r.severity = s') :
    countOf s rs = if s' = s then rs.length else 0 := by
  rw [countOf]
  split_ifs with hs
  · exact List.countP_eq_length.mpr fun r hr => by simp [h r hr, hs]
  · exact List.countP_eq_zero.mpr fun r hr => by simp [h r hr, hs]

lemma countOf_findings (d : Detector) (body url : String) (id : Nat) (s : Severity) :
    countOf s ((d.findings body).map (Record.ofFinding url id)) = (found d s body).length := by
  have hlow : ∀ r ∈ (if d.smart then d.smartGrep body else []).map (Record.ofFinding url id),
      r.severity = .low := by
    intro r hr
    obtain ⟨f, hf, rfl⟩ := List.mem_map.mp hr
    split_ifs at hf
    · rw [Record.ofFinding_severity, if_pos (Detector.kind_of_mem_smartGrep hf)]
    · cases hf
  have hinformation : ∀ r ∈ (if d.simple then d.simpleGrep body else []).map
      (Record.ofFinding url id), r.severity = .information := by
    intro r hr
    obtain ⟨f, hf, rfl⟩ := List.mem_map.mp hr
    split_ifs at hf
    · rw [Record.ofFinding_severity, Detector.kind_of_mem_simpleGrep hf, if_neg (by decide)]
    · cases hf
  rw [Detector.findings, List.map_append, countOf_append, countOf_of_forall hlow,
    countOf_of_forall hinformation, List.length_map, List.length_map]
  cases s <;> simp [found]

lemma countOf_records (d : Detector) (p : Response) (s : Severity) :
    countOf s (d.records p) = (p.shown?.map fun body => (found d s body).length).getD 0 := by
  rw [Detector.records, Response.shown?]
  cases p.isTextual with
  | false => rfl
  | true =>
    cases p.text with
    | error e => rfl
    | ok body => exact countOf_findings d body p.url p.id s

lemma countOf_scan (d : Detector) (ps : List Response) (s : Severity) :
    countOf s (ps.flatMap d.records) = total (found d s) ps := by
  induction ps with
  | nil => rfl
  | cons p ps ih =>
    rw [List.flatMap_cons, countOf_append, ih, countOf_records, total, total]
    cases hp : p.shown? <;> simp [hp]

lemma total_ite (b : Bool) (grep : String → List Finding) (ps : List Response) :
    total (fun body => if b then grep body else []) ps = if b then total grep ps else 0 := by
  cases b with
  | false => simp [total]
  | true => rfl

theorem summaries_agree (compiles : String → Bool) :
    (∀ (rs : List Record) (totalPages : Nat),
      let counts := summarize rs totalPages
      let shown := prettySummary rs
      counts.high + counts.medium + counts.low + counts.information = counts.totalFindings ∧
      counts.totalFindings = rs.length ∧
      shown.tainted = counts.high + counts.medium + counts.low ∧
      shown.tainted ≤ rs.length ∧ shown.risky = counts.information ∧
      shown.pages = counts.pagesWithFindings ∧
      counts.pagesWithFindings = (rs.map Record.url).toFinset.card) ∧
    ∀ s e d, Engine.ofSettings compiles s = .ok e → Detector.ofSettings compiles s = .ok d →
      s.uniqueness = .none → ∀ ps totalPages,
        let counts := summarize (e.finish (ps.foldl e.grep KnowledgeBase.empty)) totalPages
        counts.low = (if s.smartGrep then total d.smartGrep ps else 0) ∧
        counts.information = (if s.simpleGrep then total d.simpleGrep ps else 0) ∧
        counts.high = 0 ∧ counts.medium = 0 := by
  constructor
  · intro rs totalPages counts shown
    have htainted : shown.tainted = counts.high + counts.medium + counts.low := tainted_eq rs
    have hlength : rs.length = shown.tainted + counts.information := length_eq_tainted_add rs
    have hrisky : shown.risky = rs.length - shown.tainted := rfl
    refine ⟨?_, rfl, htainted, by omega, by omega, rfl, Record.length_urls rs⟩
    show _ = rs.length
    omega
  · intro s e d he hd hu ps totalPages counts
    obtain ⟨d', hd', rfl⟩ := Engine.ofSettings_eq_ok he
    obtain rfl : d = d' := Except.ok.inj (hd.symm.trans hd')
    obtain ⟨hsmart, hsimple, hunique⟩ := Detector.ofSettings_eq_ok hd
    have hcounts : counts = summarize (ps.flatMap d.records) totalPages := by
      dsimp only [counts]
      rw [Engine.finish_detector, hunique, hu, KnowledgeBase.unique, Record.unique_none,
        Engine.get_foldl_grep, KnowledgeBase.get_empty, List.nil_append]
    have hcount := countOf_scan d ps
    rw [hcounts, ← hsmart, ← hsimple, ← total_ite, ← total_ite]
    refine ⟨hcount .low, hcount .information, (hcount .high).trans ?_, (hcount .medium).trans ?_⟩
    · simp [found, total]
    · simp [found, total]

theorem summaries_agree_undecodable :
    let s : Settings := { simpleGrep := true, calls := .all }
    let ps := [Response.html "a" 0 "<script>eval(document.URL); eval(x)</script>",
      ⟨"b", 1, some "text/html", [0xC3]⟩, .html "c" 2 "<script>eval(document.URL)</script>"]
    ∃ e d, Engine.ofSettings (fun _ => true) s = .ok e ∧ Detector.ofSettings (fun _ => true) s = .ok d ∧
      let counts := summarize (e.finish (ps.foldl e.grep KnowledgeBase.empty)) 3
      counts.low = 2 ∧ counts.information = 3 ∧ counts.high = 0 ∧ counts.medium = 0 := by
  intro s ps
  obtain ⟨d, hd⟩ : ∃ d, Detector.ofSettings (fun _ => true) s = .ok d := ⟨_, rfl⟩
  obtain ⟨e, he⟩ : ∃ e, Engine.ofSettings (fun _ => true) s = .ok e := ⟨_, rfl⟩
  have htotals : total d.smartGrep ps = 2 ∧ total d.simpleGrep ps = 3 := by
    cases hd
    decide +kernel
  obtain ⟨hlow, hinformation, hrest⟩ := (summaries_agree _).2 s e d he hd rfl ps 3
  exact ⟨e, d, he, hd, hlow.trans htotals.1, hinformation.trans htotals.2, hrest⟩

end Report

end TaintGrep
