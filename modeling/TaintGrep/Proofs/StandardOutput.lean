import TaintGrep.Proofs.MachineReports
import TaintGrep.Proofs.ReportTracing

/-! What a check leaves on standard output. Once a page is found, a report for programs is all of it: one
JSON document, or JSON objects on lines. A run without pages says so in plain words in every format. -/

namespace TaintGrep

open TaintGrep.JsonText

namespace Report

def OneDocument (s : String) : Prop := ∃ v cs, Denotes v cs ∧ s.toList = cs ++ ['\n']

def ObjectLines (s : String) : Prop :=
  ∃ lines values, Framed lines s.toList ∧ List.Forall₂ Denotes values lines ∧
    (∀ v ∈ values, ∃ fs, v = .object fs) ∧ values.head?.bind tag? = some "metadata" ∧
    values.getLast?.bind tag? = some "summary"

lemma exists_object_of_tag? {v : Value} {tag : String} (h : tag? v = some tag) :
    ∃ fs, v = .object fs := by
  cases v with
  | object fs => exact ⟨fs, rfl⟩
  | _ => cases h

lemma oneDocument_json (o : Origin) (totalPages : Nat) (rs : List Record) :
    OneDocument (json o totalPages rs ++ "\n") := by
  refine ⟨_, _, .of_document (Json.document_pretty 0 (document o totalPages rs)), ?_⟩
  rw [String.toList_append, json, String.toList_ofList]
  rfl

lemma objectLines_jsonLines (o : Origin) (totalPages : Nat) (rs : List Record) :
    ObjectLines (jsonLines o totalPages rs) := by
  refine ⟨_, (lineValues o totalPages rs).map Json.toValue, framed_jsonLines o totalPages rs, ?_, ?_,
    ?_, ?_⟩
  · rw [List.forall₂_map_left_iff, List.forall₂_map_right_iff, List.forall₂_same]
    exact fun v _ => .of_document v.document_compact
  · intro v hv
    have htag := List.mem_map_of_mem (f := tag?) hv
    rw [map_tag?_lineValues] at htag
    obtain ⟨tag, htag⟩ : ∃ tag, tag? v = some tag := by
      simp only [List.mem_append, List.mem_cons, List.mem_replicate, List.not_mem_nil, or_false] at htag
      rcases htag with (h | ⟨-, h⟩) | h <;> exact ⟨_, h⟩
    exact exists_object_of_tag? htag
  · simp [lineValues, tag?_tagged]
  · rw [lineValues, List.map_append, List.map_singleton, List.getLast?_concat, Option.bind_some,
      tag?_tagged]

lemma not_denotes_plain (v : Value) : ¬ Denotes v "No pages found.".toList := by
  rintro ⟨h, -⟩
  have hread : read? "No pages found.".toList = none := by decide +kernel
  rw [read?_of_document h] at hread
  cases hread

lemma not_oneDocument_plain : ¬ OneDocument "No pages found.\n" := by
  rintro ⟨v, cs, hv, hcs⟩
  have heq : "No pages found.".toList ++ ['\n'] = cs ++ ['\n'] := hcs
  obtain rfl := List.append_cancel_right heq
  exact not_denotes_plain v hv

lemma not_objectLines_plain : ¬ ObjectLines "No pages found.\n" := by
  rintro ⟨lines, values, hlines, hvalues, -⟩
  have hone : Framed ["No pages found.".toList] "No pages found.\n".toList := ⟨rfl, by decide⟩
  have heq := (lines?_of_framed hlines).symm.trans (lines?_of_framed hone)
  obtain rfl := Option.some.inj heq
  cases hvalues with
  | cons hv _ => exact not_denotes_plain _ hv

end Report

namespace Command

lemma stdout_cons (x : Output) (os : List Output) : stdout (x :: os) = stdout [x] ++ stdout os := by
  simp [stdout, String.join_cons]

lemma stdout_append (os os' : List Output) : stdout (os ++ os') = stdout os ++ stdout os' := by
  rw [stdout, List.map_append, String.join_append, ← stdout, ← stdout]

lemma stdout_eq_empty {os : List Output} (h : ∀ text, Output.out text ∉ os) : stdout os = "" := by
  induction os with
  | nil => rfl
  | cons x os ih =>
    rw [stdout_cons, ih fun text htext => h text (List.mem_cons_of_mem x htext)]
    cases x with
    | out text => exact absurd List.mem_cons_self (h text)
    | err text => rfl
    | log e => rfl

def Outcome.Failed (r : Outcome) : Prop :=
  ∃ before message, r.outputs = before ++ [.err ("Error: " ++ message ++ "\n")]

lemma Outcome.failed_failure (files : Files.Tree) (os : List Output) (message : String) :
    (Outcome.failure files os message).Failed :=
  ⟨os, message, rfl⟩

lemma Outcome.not_failed_of_out {r : Outcome} {os : List Output} {text : String}
    (h : r.outputs = os ++ [.out text]) : ¬ r.Failed := by
  rintro ⟨before, message, hr⟩
  rw [h] at hr
  have hlast := (List.append_inj' hr rfl).2
  simp at hlast

namespace Check

open TaintGrep.Files

variable {s : Surroundings} {o : CheckOptions}

lemma discovered_of_dir {names : List Name} {es : List (Name × Node)}
    {fs : List (List Name × List UInt8)}
    (hdir : s.files.resolve (Path.ofString o.path) = .ok (names, .dir es))
    (hfs : ((Node.dir es).files.filter fun f => !f.1.any Name.isHidden &&
      f.1.getLast?.any (Name.hasExtension (settings s o).pageExtensions)) = fs)
    (hsorted : fs.Pairwise fun a b => precedes a.1 b.1 = true) :
    discovered s o = (fs.map fun f =>
      ⟨f.1.foldl Path.join (Path.ofString o.path), f.1, f.2⟩ : List Page).filter Page.isListed := by
  rw [discovered, Tree.pages?, hdir]
  exact congrArg _ (Node.pages_eq_map _ hfs hsorted)

lemma stdout_preamble (s : Surroundings) (o : CheckOptions) : stdout (preamble s o) = "" :=
  stdout_eq_empty fun text => by simp [preamble, warning]

def reportOf? (s : Surroundings) (o : CheckOptions) (e : Engine) (pages : List Page) : Option String :=
  let rs := responses s.files (Path.ofString o.path) o.baseUrl pages
  report? o.format (paints s.console o) ⟨s.files.cwdPath.text, o.path⟩ rs (scan e rs)

lemma stdout_runPages {e : Engine} {pages : List Page} {before : List Output} {text : String}
    (hbefore : stdout before = "") (h : reportOf? s o e pages = some text) :
    stdout (runPages s o e pages before).outputs = text := by
  have hlog : ∀ events : List Log.Event, stdout (events.map .log) = "" :=
    fun events => stdout_eq_empty fun text => by simp
  unfold reportOf? at h
  simp only [runPages, h, stdout_append, hbefore]
  rw [stdout_cons, hlog]
  simp [stdout]

lemma failed_runPages_iff {e : Engine} {pages : List Page} (before : List Output) :
    (runPages s o e pages before).Failed ↔ reportOf? s o e pages = none := by
  cases h : reportOf? s o e pages with
  | none =>
    unfold reportOf? at h
    simp only [runPages, h, iff_true]
    exact Outcome.failed_failure _ _ _
  | some text =>
    unfold reportOf? at h
    obtain ⟨before', hout⟩ := outputs_runPages before h
    simp [Outcome.not_failed_of_out hout]

lemma stdout_run (h : ¬ (run s o).Failed) :
    discovered s o = [] ∧ stdout (run s o).outputs = "No pages found.\n" ∨
    discovered s o ≠ [] ∧ ∃ e, Engine.ofSettings s.compiles (settings s o) = .ok e ∧
      reportOf? s o e (discovered s o) = some (stdout (run s o).outputs) := by
  rw [run_eq] at h ⊢
  cases he : Engine.ofSettings s.compiles (settings s o) with
  | error e =>
    rw [he] at h
    exact absurd (Outcome.failed_failure _ _ _) h
  | ok e =>
    simp only [he] at h ⊢
    split_ifs at h ⊢ with hexists hnone
    · refine Or.inl ⟨hnone, ?_⟩
      rw [Outcome.ofOutputs, stdout_append, stdout_preamble]
      simp [stdout]
    · rw [failed_runPages_iff] at h
      obtain ⟨text, htext⟩ := Option.ne_none_iff_exists'.mp h
      refine Or.inr ⟨hnone, e, rfl, ?_⟩
      rw [stdout_runPages (stdout_preamble s o) htext, htext]
    · exact absurd (Outcome.failed_failure _ _ _) h

lemma failed_run_iff (hformat : o.format ∈ ["pretty", "text", "json", "ndjson"]) :
    (run s o).Failed ↔ (∃ e, Engine.ofSettings s.compiles (settings s o) = .error e) ∨
      s.files.exists? (Path.ofString o.path) = false := by
  rw [run_eq]
  cases Engine.ofSettings s.compiles (settings s o) with
  | error e => simp [Outcome.failed_failure]
  | ok e =>
    split_ifs with hexists hnone
    · have hended : ¬ (Outcome.ofOutputs s.files (preamble s o ++ [.out "No pages found.\n"])).Failed :=
        Outcome.not_failed_of_out rfl
      simp [hexists, hended]
    · obtain ⟨text, htext⟩ := exists_report hformat (paints s.console o)
        ⟨s.files.cwdPath.text, o.path⟩
        (responses s.files (Path.ofString o.path) o.baseUrl (discovered s o))
        (scan e (responses s.files (Path.ofString o.path) o.baseUrl (discovered s o)))
      simp [failed_runPages_iff, reportOf?, htext, hexists]
    · simp [Outcome.failed_failure, hexists]

theorem run_machine_readable_iff (hformat : o.format = "json" ∨ o.format = "ndjson") :
    ((run s o).Failed ↔ (∃ e, Engine.ofSettings s.compiles (settings s o) = .error e) ∨
      s.files.exists? (Path.ofString o.path) = false) ∧
    (¬ (run s o).Failed →
      (discovered s o = [] → stdout (run s o).outputs = "No pages found.\n") ∧
      (o.format = "json" →
        (Report.OneDocument (stdout (run s o).outputs) ↔ discovered s o ≠ [])) ∧
      (o.format = "ndjson" →
        (Report.ObjectLines (stdout (run s o).outputs) ↔ discovered s o ≠ []))) := by
  refine ⟨failed_run_iff (by rcases hformat with h | h <;> simp [h]), fun h => ?_⟩
  rcases stdout_run h with ⟨hnone, hout⟩ | ⟨hpages, e, -, hreport⟩
  · rw [hout]
    exact ⟨fun _ => rfl, fun _ => iff_of_false Report.not_oneDocument_plain (not_not.mpr hnone),
      fun _ => iff_of_false Report.not_objectLines_plain (not_not.mpr hnone)⟩
  · refine ⟨fun hnone => absurd hnone hpages, fun hjson => iff_of_true ?_ hpages,
      fun hlines => iff_of_true ?_ hpages⟩
    · rw [reportOf?, hjson] at hreport
      rw [← Option.some.inj hreport]
      exact Report.oneDocument_json _ _ _
    · rw [reportOf?, hlines] at hreport
      rw [← Option.some.inj hreport]
      exact Report.objectLines_jsonLines _ _ _

theorem run_machine_readable_iff_wild_name :
    ∃ s o, o.format = "ndjson" ∧ (discovered s o).map Page.names = [[Name.ofString "a\n\"b.html"]] ∧
      ¬ (run s o).Failed ∧ Report.ObjectLines (stdout (run s o).outputs) := by
  let below : List (Name × Node) :=
    [("a\n\"b.html", .file (Text.Utf8.encode "<script>eval(document.URL)</script>"))]
  let s : Surroundings := ⟨⟨.dir [("p", .dir below)], []⟩, {}, fun _ => true⟩
  let o : CheckOptions := { path := "/p", format := "ndjson", failOnFindings := true }
  have hsettings : settings s o = {} := by decide +kernel
  have hpages : (discovered s o).map Page.names = [[Name.ofString "a\n\"b.html"]] := by
    rw [discovered_of_dir (by unfold s o below; rfl) rfl (by decide +kernel)]
    decide +kernel
  have hdiscovered : discovered s o ≠ [] := by
    rintro hnone
    rw [hnone] at hpages
    cases hpages
  obtain ⟨hfailed, hended⟩ := run_machine_readable_iff (s := s) (o := o) (Or.inr rfl)
  have hruns : ¬ (run s o).Failed := by
    rw [hfailed, hsettings]
    rintro (⟨e, he⟩ | hmissing)
    · cases he
    · rw [exists?_of_discovered hdiscovered] at hmissing
      cases hmissing
  exact ⟨s, o, rfl, hpages, hruns, ((hended hruns).2.2 rfl).mpr hdiscovered⟩

theorem run_pageless_not_document :
    ∃ s o, o.format = "json" ∧ s.files.exists? (Path.ofString o.path) = true ∧ ¬ (run s o).Failed ∧
      stdout (run s o).outputs = "No pages found.\n" ∧
      ¬ Report.OneDocument (stdout (run s o).outputs) := by
  let s : Surroundings := ⟨⟨.dir [("d", .dir [("c.txt", .file [])])], ["d"]⟩, {}, fun _ => true⟩
  let o : CheckOptions := { path := ".", format := "json" }
  have hsettings : settings s o = {} := by decide +kernel
  have hexists : s.files.exists? (Path.ofString o.path) = true := by decide +kernel
  have hruns : ¬ (run s o).Failed := by
    rw [failed_run_iff (by decide), hsettings, hexists]
    rintro (⟨e, he⟩ | hmissing)
    · cases he
    · cases hmissing
  have hnone : discovered s o = [] := by
    rw [discovered_of_dir (by unfold s o; rfl) rfl (by decide +kernel)]
    decide +kernel
  obtain ⟨-, hout⟩ | ⟨hpages, -⟩ := stdout_run hruns
  · exact ⟨s, o, rfl, hexists, hruns, hout, hout ▸ Report.not_oneDocument_plain⟩
  · exact absurd hnone hpages

end Check

end Command

end TaintGrep
