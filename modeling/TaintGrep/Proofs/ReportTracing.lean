import Mathlib.Tactic.Lemma
import TaintGrep.Command.Check
import TaintGrep.Proofs.Decoding
import TaintGrep.Proofs.PageListing
import TaintGrep.Proofs.PageRecords
import TaintGrep.Proofs.UniqueViews

/-! A reported record leads back to its page: its number is the place of the page in the list that was
scanned, and its address and text are those of this page. -/

namespace TaintGrep

lemma Detector.responseId_of_mem_records {d : Detector} {p : Response} {r : Record}
    (h : r ∈ d.records p) : r.responseId = p.id := by
  obtain ⟨-, body, -, f, -, rfl⟩ := mem_records.mp h
  exact Record.ofFinding_responseId p.url p.id f

lemma Response.body_eq_encode {p : Response} {body : String} (h : p.text = .ok body) :
    p.body = Text.Utf8.encode body := by
  unfold Response.text at h
  split at h
  · rename_i cs hcs
    cases h
    exact Text.Utf8.eq_encode_of_decode hcs
  · cases h

namespace Command.Check

open TaintGrep.Files TaintGrep.Text

def settings (s : Surroundings) (o : CheckOptions) : Settings :=
  o.override (Settings.nearest s.files (o.settingsDir s.files)).settings

def discovered (s : Surroundings) (o : CheckOptions) : List Page :=
  ((s.files.pages? (settings s o).pageExtensions (Path.ofString o.path)).getD []).filter Page.isListed

section

variable {t : Tree} {root : Path} {base : Option String} {pages : List Page}

lemma mem_responses {p : Response} (h : p ∈ responses t root base pages) :
    ∃ page, pages[p.id]? = some page ∧ p = response t root base p.id page := by
  rw [responses, List.mem_map] at h
  obtain ⟨⟨page, id⟩, hpage, rfl⟩ := h
  exact ⟨page, List.mem_zipIdx_iff_getElem?.mp (List.mem_filter.mp hpage).1, rfl⟩

lemma responses_numbered (t : Tree) (root : Path) (base : Option String) (pages : List Page) :
    (responses t root base pages).Pairwise fun p q => p.id < q.id := by
  rw [responses, List.pairwise_map]
  exact (pairwise_zipIdx pages).sublist List.filter_sublist

lemma length_responses (h : ∀ page ∈ pages, page.isReadable = true) :
    (responses t root base pages).length = pages.length := by
  have hall : (pages.zipIdx.filter fun x => x.1.isReadable) = pages.zipIdx :=
    List.filter_eq_self.mpr fun x hx => h x.1 (List.fst_mem_of_mem_zipIdx hx)
  rw [responses, List.length_map, hall, List.length_zipIdx]

end

lemma scan_detector (d : Detector) (rs : List Response) :
    scan ⟨[Plugin.ofDetector d]⟩ rs = Record.unique d.uniqueness (rs.flatMap d.records) := by
  rw [scan, Engine.finish_detector, KnowledgeBase.unique, Engine.get_foldl_grep]
  simp

lemma records_numbered (d : Detector) {rs : List Response}
    (h : rs.Pairwise fun p q => p.id < q.id) :
    (rs.flatMap d.records).Pairwise fun a b => a.responseId ≤ b.responseId := by
  rw [List.pairwise_flatMap]
  constructor
  · intro p hp
    refine List.pairwise_of_forall_mem_list fun a ha b hb => ?_
    have hids : a.responseId = b.responseId :=
      (Detector.responseId_of_mem_records ha).trans (Detector.responseId_of_mem_records hb).symm
    exact Nat.le_of_eq hids
  · refine h.imp fun {p q} hpq a ha b hb => ?_
    rw [Detector.responseId_of_mem_records ha, Detector.responseId_of_mem_records hb]
    exact Nat.le_of_lt hpq

lemma pagesWithFindings_le {rs : List Response} {records : List Record}
    (h : ∀ r ∈ records, ∃ p ∈ rs, r.url = p.url) :
    let summary := Report.summarize records rs.length
    summary.pagesWithFindings ≤ summary.totalPages := by
  have hurls : ∀ r ∈ records, r.url ∈ rs.map Response.url := by
    intro r hr
    obtain ⟨p, hp, hurl⟩ := h r hr
    exact hurl ▸ List.mem_map_of_mem hp
  have hcount := Record.length_urls_le hurls
  rwa [List.length_map] at hcount

def Traced (t : Tree) (root : Path) (base : Option String) (d : Detector) (pages : List Page)
    (r : Record) : Prop :=
  ∃ page body, pages[r.responseId]? = some page ∧ r.url = page.url t root base ∧
    page.bytes = Utf8.encode body ∧ r ∈ (d.findings body).map (Record.ofFinding r.url r.responseId)

lemma traced_of_mem_records {t : Tree} {root : Path} {base : Option String} {d : Detector}
    {pages : List Page} {p : Response} {r : Record} (hp : p ∈ responses t root base pages)
    (hr : r ∈ d.records p) : Traced t root base d pages r := by
  obtain ⟨page, hpage, hresponse⟩ := mem_responses hp
  have hurl := Detector.url_of_mem_records hr
  have hid := Detector.responseId_of_mem_records hr
  obtain ⟨-, body, hbody, f, hf, hrecord⟩ := Detector.mem_records.mp hr
  refine ⟨page, body, by rw [hid, hpage], ?_, ?_, ?_⟩
  · rw [hurl, hresponse]
    rfl
  · rw [← Response.body_eq_encode hbody, hresponse]
    rfl
  · rw [hurl, hid, hrecord]
    exact List.mem_map_of_mem hf

lemma exists_report {format : String} (h : format ∈ ["pretty", "text", "json", "ndjson"])
    (colour : Bool) (origin : Report.Origin) (rs : List Response) (records : List Record) :
    ∃ text, report? format colour origin rs records = some text := by
  simp only [List.mem_cons, List.not_mem_nil, or_false] at h
  rcases h with rfl | rfl | rfl | rfl <;> exact ⟨_, rfl⟩

variable {s : Surroundings} {o : CheckOptions} {d : Detector}

def preamble (s : Surroundings) (o : CheckOptions) : List Output :=
  (Settings.nearest s.files (o.settingsDir s.files)).warnings.map
    (fun w => warning (paints s.console o) w.message) ++ [.log (settingsEvent (settings s o))]

lemma pages?_eq (s : Surroundings) (o : CheckOptions) :
    ((s.files.pages? (settings s o).pageExtensions (Path.ofString o.path)).map
      fun pages => pages.filter Page.isListed) =
        if s.files.exists? (Path.ofString o.path) then some (discovered s o) else none := by
  rw [discovered, Tree.pages?, Tree.exists?]
  cases s.files.resolve (Path.ofString o.path) with
  | error e => rfl
  | ok found =>
    obtain ⟨names, node⟩ := found
    cases node <;> rfl

lemma run_eq (s : Surroundings) (o : CheckOptions) : run s o =
    match Engine.ofSettings s.compiles (settings s o) with
    | .error e => .failure s.files (preamble s o) e.message
    | .ok e =>
      if s.files.exists? (Path.ofString o.path) then
        if discovered s o = [] then .ofOutputs s.files (preamble s o ++ [.out "No pages found.\n"])
        else runPages s o e (discovered s o) (preamble s o)
      else .failure s.files (preamble s o) ("Path does not exist: " ++ o.path) := by
  unfold run
  dsimp only
  rw [← settings, ← preamble, pages?_eq]
  cases Engine.ofSettings s.compiles (settings s o) with
  | error e => rfl
  | ok e =>
    cases s.files.exists? (Path.ofString o.path) with
    | false => rfl
    | true => cases discovered s o <;> rfl

lemma pages?_of_discovered (h : discovered s o ≠ []) :
    ∃ pages, s.files.pages? (settings s o).pageExtensions (Path.ofString o.path) = some pages ∧
      discovered s o = pages.filter Page.isListed := by
  unfold discovered at h ⊢
  cases hpages : s.files.pages? (settings s o).pageExtensions (Path.ofString o.path) with
  | none => simp [hpages] at h
  | some pages => exact ⟨pages, rfl, rfl⟩

lemma exists?_of_discovered (h : discovered s o ≠ []) :
    s.files.exists? (Path.ofString o.path) = true := by
  obtain ⟨pages, hpages, -⟩ := pages?_of_discovered h
  have heq := pages?_eq s o
  rw [hpages] at heq
  by_contra hmissing
  simp [hmissing] at heq

lemma run_eq_runPages (hd : Detector.ofSettings s.compiles (settings s o) = .ok d)
    (h : discovered s o ≠ []) :
    ∃ before, run s o = runPages s o ⟨[Plugin.ofDetector d]⟩ (discovered s o) before := by
  have he : Engine.ofSettings s.compiles (settings s o) = .ok ⟨[Plugin.ofDetector d]⟩ := by
    rw [Engine.ofSettings, hd]
  refine ⟨preamble s o, ?_⟩
  rw [run_eq, he]
  simp only [exists?_of_discovered h, h, if_true, if_false]

lemma outputs_runPages {e : Engine} {pages : List Page} {text : String} (before : List Output)
    (h : report? o.format (paints s.console o) ⟨s.files.cwdPath.text, o.path⟩
      (responses s.files (Path.ofString o.path) o.baseUrl pages)
      (scan e (responses s.files (Path.ofString o.path) o.baseUrl pages)) = some text) :
    ∃ before', (runPages s o e pages before).outputs = before' ++ [.out text] := by
  simp only [runPages, h]
  exact ⟨_, rfl⟩

lemma discovered_sorted (h : discovered s o ≠ []) :
    ((discovered s o).Pairwise fun a b => precedes a.names b.names = true) ∧
      ∃ names node, s.files.resolve (Path.ofString o.path) = .ok (names, node) ∧
        ∀ page ∈ discovered s o, ∃ ns, (ns, page.bytes) ∈ node.files ∧
          page.path = ns.foldl Path.join (Path.ofString o.path) := by
  obtain ⟨pages, hpages, hdiscovered⟩ := pages?_of_discovered h
  obtain ⟨hsorted, names, node, hresolve, hfiles⟩ := Tree.pages?_eq_some hpages
  rw [hdiscovered]
  exact ⟨hsorted.sublist List.filter_sublist, names, node, hresolve,
    fun page hpage => hfiles page (List.mem_filter.mp hpage).1⟩

theorem run_report_traced (hd : Detector.ofSettings s.compiles (settings s o) = .ok d)
    (hformat : o.format ∈ ["pretty", "text", "json", "ndjson"]) (hpages : discovered s o ≠ [])
    (hread : ∀ page ∈ discovered s o, page.isReadable = true) :
    let pages := discovered s o
    let rs := responses s.files (Path.ofString o.path) o.baseUrl pages
    let records := scan ⟨[Plugin.ofDetector d]⟩ rs
    let summary := Report.summarize records rs.length
    (∃ before text, (run s o).outputs = before ++ [.out text] ∧
      report? o.format (paints s.console o) ⟨s.files.cwdPath.text, o.path⟩ rs records = some text) ∧
    (pages.Pairwise fun a b => precedes a.names b.names = true) ∧
    (∃ names node, s.files.resolve (Path.ofString o.path) = .ok (names, node) ∧
      ∀ page ∈ pages, ∃ ns, (ns, page.bytes) ∈ node.files ∧
        page.path = ns.foldl Path.join (Path.ofString o.path)) ∧
    records = Record.unique d.uniqueness (rs.flatMap d.records) ∧
    (∀ r ∈ records, Traced s.files (Path.ofString o.path) o.baseUrl d pages r) ∧
    (records.Pairwise fun a b => a.responseId ≤ b.responseId) ∧
    summary.pagesWithFindings ≤ summary.totalPages ∧ summary.totalPages = pages.length := by
  intro pages rs records summary
  obtain ⟨before, hrun⟩ := run_eq_runPages hd hpages
  obtain ⟨hsorted, hbelow⟩ := discovered_sorted hpages
  have hrecords : records = Record.unique d.uniqueness (rs.flatMap d.records) := scan_detector d rs
  have hsublist : records.Sublist (rs.flatMap d.records) :=
    hrecords ▸ Record.unique_sublist d.uniqueness _
  refine ⟨?_, hsorted, hbelow, hrecords, ?_, ?_, ?_, length_responses hread⟩
  · obtain ⟨text, htext⟩ := exists_report hformat (paints s.console o)
      ⟨s.files.cwdPath.text, o.path⟩ rs records
    obtain ⟨before', hout⟩ := outputs_runPages before htext
    exact ⟨before', text, hrun ▸ hout, htext⟩
  · intro r hr
    obtain ⟨p, hp, hr⟩ := List.mem_flatMap.mp (hsublist.subset hr)
    exact traced_of_mem_records hp hr
  · exact (records_numbered d (responses_numbered _ _ _ pages)).sublist hsublist
  · refine pagesWithFindings_le fun r hr => ?_
    obtain ⟨p, hp, hr⟩ := List.mem_flatMap.mp (hsublist.subset hr)
    exact ⟨p, hp, Detector.url_of_mem_records hr⟩

theorem run_report_traced_after_undecodable :
    ∃ s o d, Detector.ofSettings s.compiles (settings s o) = .ok d ∧ o.format = "json" ∧
      (discovered s o).map Page.bytes = [[0xC3], Utf8.encode "<script>eval(document.URL)</script>"] ∧
      (∀ page ∈ discovered s o, page.isReadable = true) ∧
      let root := Path.ofString o.path
      let rs := responses s.files root o.baseUrl (discovered s o)
      ∃ text r, Output.out text ∈ (run s o).outputs ∧
        r ∈ scan ⟨[Plugin.ofDetector d]⟩ rs ∧ r.responseId = 1 ∧ r.url = "file:///p/b/c.htm" ∧
        Traced s.files root o.baseUrl d (discovered s o) r := by
  let below : List (Name × Node) := [("a.html", .file [0xC3]),
    ("b", .dir [("c.htm", .file (Utf8.encode "<script>eval(document.URL)</script>"))])]
  let s : Surroundings := ⟨⟨.dir [("p", .dir below)], []⟩, {}, fun _ => true⟩
  let o : CheckOptions := { path := "/p", format := "json" }
  have hsettings : settings s o = {} := by decide +kernel
  obtain ⟨d, hd⟩ : ∃ d, Detector.ofSettings s.compiles (settings s o) = .ok d := by
    rw [hsettings]
    exact ⟨_, rfl⟩
  have hpages : discovered s o = [⟨⟨true, ["p", "a.html"]⟩, ["a.html"], [0xC3]⟩,
      ⟨⟨true, ["p", "b", "c.htm"]⟩, ["b", "c.htm"],
        Utf8.encode "<script>eval(document.URL)</script>"⟩] := by
    have hdir : s.files.pages? (settings s o).pageExtensions (Path.ofString o.path) =
        some ((Node.dir below).pages (settings s o).pageExtensions (Path.ofString o.path)) := by
      unfold s o below
      rfl
    rw [discovered, hdir, Node.pages_eq_map _ rfl (by decide +kernel)]
    decide +kernel
  have hread : ∀ page ∈ discovered s o, page.isReadable = true := by
    rw [hpages]
    decide +kernel
  have hrecord : ∃ r ∈ scan ⟨[Plugin.ofDetector d]⟩
      (responses s.files (Path.ofString o.path) o.baseUrl (discovered s o)),
      r.responseId = 1 ∧ r.url = "file:///p/b/c.htm" := by
    rw [hsettings] at hd
    rw [hpages]
    cases hd
    decide +kernel
  obtain ⟨⟨before, text, hout, -⟩, -, -, -, htraced, -⟩ :=
    run_report_traced hd (by decide) (by simp [hpages]) hread
  obtain ⟨r, hr, hid, hurl⟩ := hrecord
  exact ⟨s, o, d, hd, rfl, by rw [hpages]; rfl, hread, text, r, by simp [hout], hr, hid, hurl,
    htraced r hr⟩

end Command.Check

end TaintGrep
