import TaintGrep.Proofs.FirstRecords
import TaintGrep.Proofs.PageDiscovery

/-! Pages found below a directory have different addresses below a base, however the directory is spelled.
So no page takes the place of another, neither in the listing of a report nor where records are collapsed
by address. -/

namespace TaintGrep

namespace Record

variable {u : Uniqueness} {seen : List (String × List String)} {rs rs' : List Record}

lemma uniqueFrom_append : uniqueFrom u seen (rs ++ rs') =
    uniqueFrom u seen rs ++ uniqueFrom u (rs.filterMap u.key? ++ seen) rs' := by
  induction rs' using List.reverseRecOn with
  | nil => simp [uniqueFrom]
  | append_singleton rs' r ih =>
    have hseen : repeats u ((rs ++ rs').filterMap u.key? ++ seen) r =
        repeats u (rs'.filterMap u.key? ++ (rs.filterMap u.key? ++ seen)) r := by
      simp only [List.filterMap_append, repeats_append]
      grind
    rw [← List.append_assoc, uniqueFrom_concat, uniqueFrom_concat, ih, hseen, List.append_assoc]

lemma unique_append_of_url_ne (h : ∀ r ∈ rs, ∀ r' ∈ rs', r'.url ≠ r.url) :
    unique u (rs ++ rs') = unique u rs ++ unique u rs' := by
  have hkeys : ∀ r' ∈ rs', repeats u (rs.filterMap u.key? ++ []) r' = repeats u [] r' := by
    intro r' hr'
    rw [repeats_append, Bool.or_eq_right_iff_imp]
    intro hrepeats
    obtain ⟨r, hr, k, hk, hk'⟩ := repeats_keys_iff.mp hrepeats
    have hsame : repeats u (u.key? r).toList r' = true := by simp [repeats, hk, hk']
    rw [repeats_key_of_url_ne u (h r hr r' hr')] at hsame
    cases hsame
  rw [unique, uniqueFrom_append, uniqueFrom_congr hkeys]
  rfl

lemma unique_url_flatMap {α : Type} {ps : List α} {f : α → List Record} {url : α → String}
    (hurl : ∀ p ∈ ps, ∀ r ∈ f p, r.url = url p) (hps : (ps.map url).Nodup) :
    unique .url (ps.flatMap f) = ps.filterMap fun p => (f p).head? := by
  induction ps with
  | nil => rfl
  | cons p ps ih =>
    obtain ⟨hp, hurl⟩ := List.forall_mem_cons.mp hurl
    rw [List.map_cons, List.nodup_cons] at hps
    have hother : ∀ r ∈ f p, ∀ r' ∈ ps.flatMap f, r'.url ≠ r.url := by
      intro r hr r' hr' heq
      obtain ⟨q, hq, hr'⟩ := List.mem_flatMap.mp hr'
      apply hps.1
      rw [← hp r hr, ← heq, hurl q hq r' hr']
      exact List.mem_map_of_mem hq
    have hfirst : unique .url (f p) = (f p).head?.toList := by
      cases hrs : f p with
      | nil => rfl
      | cons r rs =>
        rw [hrs] at hp
        obtain ⟨hr, hrs⟩ := List.forall_mem_cons.mp hp
        rw [unique_url_cons fun a ha => (hrs a ha).trans hr.symm]
        rfl
    rw [List.flatMap_cons, unique_append_of_url_ne hother, hfirst, ih hurl hps.2, List.filterMap_cons]
    cases (f p).head? <;> rfl

end Record

namespace Files

lemma Path.segments_eq {root file : Path} {ns : List Name} (hne : ns ≠ [])
    (h : file.components = root.components ++ ns.map .name) :
    root.segments file = ns.map Name.lossy := by
  have hrest : ∀ cs ds : List Component, cs.isPrefixOf? (cs ++ ds) = some ds := by
    intro cs ds
    induction cs with
    | nil => rfl
    | cons c cs ih => simp [List.isPrefixOf?, ih]
  rw [segments, h, hrest]
  cases ns with
  | nil => exact absurd rfl hne
  | cons n ns => simp [Component.text, Function.comp_def]

def IsStem (base stem : String) : Prop :=
  (∃ n, base.toList = stem.toList ++ List.replicate n '/') ∧ stem.toList.getLast? ≠ some '/'

lemma isStem_trimmed (base : String) :
    IsStem base (String.ofList (base.toList.reverse.dropWhile (· == '/')).reverse) := by
  rw [IsStem, String.toList_ofList]
  constructor
  · let slashes := base.toList.reverse.takeWhile (· == '/')
    have hslashes : slashes = List.replicate slashes.length '/' :=
      List.eq_replicate_iff.mpr ⟨rfl, fun c hc => by simpa using Text.of_mem_takeWhile hc⟩
    refine ⟨slashes.length, ?_⟩
    rw [← List.reverse_replicate, ← hslashes, ← List.reverse_append, List.takeWhile_append_dropWhile,
      List.reverse_reverse]
  · intro hlast
    have hnot := List.head?_dropWhile_not (· == '/') base.toList.reverse
    rw [List.getLast?_reverse] at hlast
    rw [hlast] at hnot
    cases hnot

namespace Name

open TaintGrep.Text

variable {name : Name}

lemma text?_eq_some_lossy (h : name.text? ≠ none) : name.text? = some name.lossy := by
  obtain ⟨text, htext⟩ := Option.ne_none_iff_exists'.mp h
  rw [htext, lossy, text?_eq_some_iff.mp htext, Utf8.decodeLossy_encode, String.ofList_toList]

lemma bytes_eq_encode_lossy (h : name.text? ≠ none) : name.bytes = Utf8.encode name.lossy :=
  text?_eq_some_iff.mp (text?_eq_some_lossy h)

lemma slash_notMem_lossy (hproper : name.isProper = true) (htext : name.text? ≠ none) :
    '/' ∉ name.lossy.toList := by
  intro hmem
  have hbyte : 0x2F ∈ name.bytes := by
    rw [bytes_eq_encode_lossy htext, Utf8.encode_eq]
    exact List.mem_flatMap.mpr ⟨'/', hmem, by decide⟩
  simp [isProper, hbyte] at hproper

end Name

def Spelled (ns : List Name) : Prop :=
  ns ≠ [] ∧ ∀ name ∈ ns, name.isProper = true ∧ name.text? ≠ none

lemma Spelled.splitOn {ns : List Name} (h : Spelled ns) :
    ("/".intercalate (ns.map Name.lossy)).toList.splitOn '/' = (ns.map Name.lossy).map String.toList := by
  rw [String.toList_intercalate]
  refine List.splitOn_intercalate '/' ?_ (by simpa using h.1)
  intro cs hcs
  simp only [List.mem_map] at hcs
  obtain ⟨_, ⟨name, hname, rfl⟩, rfl⟩ := hcs
  exact Name.slash_notMem_lossy (h.2 name hname).1 (h.2 name hname).2

lemma Spelled.map_bytes {ns : List Name} (h : Spelled ns) :
    ns.map Name.bytes = (ns.map Name.lossy).map Text.Utf8.encode := by
  rw [List.map_map]
  exact List.map_congr_left fun name hname => Name.bytes_eq_encode_lossy (h.2 name hname).2

lemma eq_of_intercalate_eq {ns ms : List Name} (hns : Spelled ns) (hms : Spelled ms)
    (h : "/".intercalate (ns.map Name.lossy) = "/".intercalate (ms.map Name.lossy)) : ns = ms := by
  have hlossy : ns.map Name.lossy = ms.map Name.lossy := by
    apply List.map_injective_iff.mpr fun _ _ => String.ext
    rw [← hns.splitOn, ← hms.splitOn, h]
  apply List.map_injective_iff.mpr fun _ _ => Name.eq_of_bytes_eq
  rw [hns.map_bytes, hms.map_bytes, hlossy]

section

variable {es : List (Name × Node)} {page : Page} {extensions : List String} {root : Path}
  (hproper : (Node.dir es).isProper = true)
  (htext : ∀ f ∈ (Node.dir es).files, ∀ name ∈ f.1, name.text? ≠ none)

include hproper htext

lemma spelled_of_mem_pages (h : page ∈ (Node.dir es).pages extensions root) : Spelled page.names := by
  have hfile := (Node.mem_pages h).1
  have hget := (Node.mem_files_iff hproper).mp hfile
  refine ⟨?_, fun name hname => ⟨(Node.isProper_of_get? hproper hget).2 name hname, htext _ hfile name hname⟩⟩
  intro hnil
  rw [hnil] at hget
  cases hget

lemma url_of_mem_pages (t : Tree) (base : String) (h : page ∈ (Node.dir es).pages extensions root) :
    page.url t root (some base) =
      String.ofList (base.toList.reverse.dropWhile (· == '/')).reverse ++ "/" ++
        "/".intercalate (page.names.map Name.lossy) := by
  rw [Page.url, Path.segments_eq (spelled_of_mem_pages hproper htext h).1
    (components_of_mem_pages hproper h)]

lemma nodup_urls (t : Tree) (base : String) :
    (((Node.dir es).pages extensions root).map (Page.url t root (some base))).Nodup := by
  have hnames := Node.nodup_names hproper extensions root
  rw [List.Nodup, List.pairwise_map] at hnames ⊢
  refine hnames.imp_of_mem ?_
  intro a b ha hb hne hurl
  rw [url_of_mem_pages hproper htext t base ha, url_of_mem_pages hproper htext t base hb] at hurl
  exact hne (eq_of_intercalate_eq (spelled_of_mem_pages hproper htext ha)
    (spelled_of_mem_pages hproper htext hb) ((String.append_right_inj _).mp hurl))

end

end Files

namespace Command.Check

open TaintGrep.Files TaintGrep.Text

variable {t : Tree} {root : Path} {base : Option String} {pages : List Page}

lemma map_url_responses_sublist :
    ((responses t root base pages).map Response.url).Sublist (pages.map (Page.url t root base)) := by
  have hpages : pages.map (Page.url t root base) = pages.zipIdx.map fun x => x.1.url t root base := by
    conv_lhs => rw [← List.zipIdx_map_fst 0 pages, List.map_map]
    rfl
  rw [hpages, responses, List.map_map]
  exact List.filter_sublist.map _

variable {rs : List Response}

lemma nodup_keys_bodies (h : (rs.map Response.url).Nodup) : ((bodies rs).map Prod.fst).Nodup := by
  rw [bodies, List.map_map]
  exact h

lemma sourceLine?_bodies (h : (rs.map Response.url).Nodup) {r : Response} (hr : r ∈ rs) (n : Nat) :
    Report.sourceLine? (bodies rs) r.url (n + 1) =
      (lines (String.ofList (Utf8.decodeLossy r.body)))[n]? := by
  have hreverse : ((bodies rs).reverse.map Prod.fst).Nodup := by
    rw [List.map_reverse]
    exact List.nodup_reverse.mpr (nodup_keys_bodies h)
  have hmem : (r.url, String.ofList (Utf8.decodeLossy r.body)) ∈ (bodies rs).reverse :=
    List.mem_reverse.mpr (List.mem_map_of_mem hr)
  have hlookup := (lookup_eq_some_iff_mem hreverse).mpr hmem
  simp only [Report.sourceLine?, hlookup]

end Command.Check

namespace Files

open TaintGrep.Command TaintGrep.Text

theorem Tree.pages?_apart {t : Tree} {root : Path} {d : List Name} {es : List (Name × Node)}
    (hroot : t.resolve root = .ok (d, .dir es)) (hproper : (Node.dir es).isProper = true)
    (htext : ∀ f ∈ (Node.dir es).files, ∀ name ∈ f.1, name.text? ≠ none)
    (extensions : List String) (base : String) :
    ∃ pages stem, t.pages? extensions root = some pages ∧ IsStem base stem ∧
      (∀ page ∈ pages, ∃ ns texts, ns ≠ [] ∧ page.path.components = root.components ++ ns.map .name ∧
        ns.map Name.text? = texts.map some ∧ root.segments page.path = texts ∧
        page.url t root (some base) = stem ++ "/" ++ "/".intercalate texts) ∧
      (pages.map (Page.url t root (some base))).Nodup ∧
      let rs := Check.responses t root (some base) (pages.filter Page.isListed)
      ((Check.bodies rs).map Prod.fst).Nodup ∧
        (∀ r ∈ rs, ∀ n, Report.sourceLine? (Check.bodies rs) r.url (n + 1) =
          (lines (String.ofList (Utf8.decodeLossy r.body)))[n]?) ∧
        ∀ det : Detector, det.uniqueness = .url →
          Check.scan ⟨[Plugin.ofDetector det]⟩ rs = rs.filterMap fun r => (det.records r).head? := by
  have hurls : (((Node.dir es).pages extensions root).map (Page.url t root (some base))).Nodup :=
    nodup_urls hproper htext t base
  refine ⟨_, _, Tree.pages?_of_dir hroot extensions, isStem_trimmed base, ?_, hurls, ?_⟩
  · intro page hpage
    have hcomponents := components_of_mem_pages hproper hpage
    obtain ⟨hne, hnames⟩ := spelled_of_mem_pages hproper htext hpage
    have htexts : page.names.map Name.text? = (page.names.map Name.lossy).map some := by
      rw [List.map_map]
      exact List.map_congr_left fun name hname => Name.text?_eq_some_lossy (hnames name hname).2
    exact ⟨page.names, _, hne, hcomponents, htexts, Path.segments_eq hne hcomponents,
      url_of_mem_pages hproper htext t base hpage⟩
  intro rs
  have hrs : (rs.map Response.url).Nodup :=
    hurls.sublist (Check.map_url_responses_sublist.trans (List.filter_sublist.map _))
  refine ⟨Check.nodup_keys_bodies hrs, fun r hr n => Check.sourceLine?_bodies hrs hr n, ?_⟩
  intro det hu
  rw [Check.scan_detector, hu]
  exact Record.unique_url_flatMap (fun r _ _ => Detector.url_of_mem_records) hrs

theorem Tree.pages?_apart_dotted_root :
    let below : List (Name × Node) :=
      [("b", .dir [("x.html", .file [0x62])]), ("x.html", .file [0x61])]
    let t : Tree := ⟨.dir [("w", .dir [("a", .dir below)])], ["w"]⟩
    let root := Path.ofString "./a//."
    t.resolve root = .ok (["w", "a"], .dir below) ∧ (Node.dir below).isProper = true ∧
      (∀ f ∈ (Node.dir below).files, ∀ name ∈ f.1, name.text? ≠ none) ∧
      ∃ pages, t.pages? ["html"] root = some pages ∧
        pages.map (fun page => page.path.text) = ["./a//./b/x.html", "./a//./x.html"] ∧
        pages.map (Page.url t root (some "http://h//")) = ["http://h/b/x.html", "http://h/x.html"] ∧
        let rs := Check.responses t root (some "http://h//") (pages.filter Page.isListed)
        (∀ r ∈ rs, ∀ n, Report.sourceLine? (Check.bodies rs) r.url (n + 1) =
            (lines (String.ofList (Utf8.decodeLossy r.body)))[n]?) ∧
          ∀ det : Detector, det.uniqueness = .url →
            Check.scan ⟨[Plugin.ofDetector det]⟩ rs =
              rs.filterMap fun r => (det.records r).head? := by
  intro below t root
  have hroot : t.resolve root = .ok (["w", "a"], .dir below) := rfl
  have hproper : (Node.dir below).isProper = true := by decide +kernel
  have htext : ∀ f ∈ (Node.dir below).files, ∀ name ∈ f.1, name.text? ≠ none := by decide +kernel
  obtain ⟨pages, stem, hpages, -, -, -, -, hlines, hscan⟩ :=
    Tree.pages?_apart hroot hproper htext ["html"] "http://h//"
  have hfound : t.pages? ["html"] root = some [
      ⟨Path.ofString "./a//./b/x.html", ["b", "x.html"], [0x62]⟩,
      ⟨Path.ofString "./a//./x.html", ["x.html"], [0x61]⟩] := by
    rw [Tree.pages?_of_dir hroot, Node.pages_eq_map root rfl (by decide +kernel)]
    decide +kernel
  obtain rfl := Option.some.inj (hfound.symm.trans hpages)
  exact ⟨hroot, hproper, htext, _, hpages, by decide +kernel, by decide +kernel, hlines, hscan⟩

end Files

end TaintGrep
