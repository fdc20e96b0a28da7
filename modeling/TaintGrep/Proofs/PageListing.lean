import Mathlib.Tactic.Lemma
import TaintGrep.Files.Page

/-! The pages that a path gives to scan are files at or below it, in the order of their paths. -/

namespace TaintGrep.Files

lemma Name.eq_of_bytes_eq {a b : Name} (h : a.bytes = b.bytes) : a = b := by
  cases a
  cases b
  exact congrArg Name.mk h

lemma Name.lt_of_ne_of_not_lt {a b : Name} (hne : a ≠ b) (h : ¬ a < b) : b < a := by
  have hbytes : b.bytes ≠ a.bytes := fun heq => hne (eq_of_bytes_eq heq.symm)
  show b.bytes < a.bytes
  exact Std.lt_of_le_of_ne (List.not_lt.mp h) hbytes

lemma precedes_total (as bs : List Name) : (precedes as bs || precedes bs as) = true := by
  induction as generalizing bs with
  | nil => simp [precedes]
  | cons a as ih =>
    cases bs with
    | nil => simp [precedes]
    | cons b bs =>
      by_cases hab : a < b
      · simp [precedes, hab]
      · by_cases heq : a = b
        · subst heq
          simpa [precedes, hab] using ih bs
        · simp [precedes, Name.lt_of_ne_of_not_lt heq hab]

lemma precedes_cons {a b : Name} {as bs : List Name} :
    precedes (a :: as) (b :: bs) = true ↔ a < b ∨ a = b ∧ precedes as bs = true := by
  simp [precedes]

lemma precedes_trans (as bs cs : List Name) (h : precedes as bs = true)
    (h' : precedes bs cs = true) : precedes as cs = true := by
  induction as generalizing bs cs with
  | nil => rfl
  | cons a as ih =>
    cases bs with
    | nil => cases h
    | cons b bs =>
      cases cs with
      | nil => cases h'
      | cons c cs =>
        rw [precedes_cons] at h h' ⊢
        rcases h with hab | ⟨rfl, h⟩
        · rcases h' with hbc | ⟨rfl, -⟩
          · exact Or.inl (List.lt_trans hab hbc)
          · exact Or.inl hab
        · exact h'.imp_right fun ⟨hac, h'⟩ => ⟨hac, ih bs cs h h'⟩

lemma Node.pages_sorted (extensions : List String) (p : Path) (n : Node) :
    (n.pages extensions p).Pairwise fun a b => precedes a.names b.names = true := by
  rw [Node.pages, List.pairwise_map]
  exact List.pairwise_mergeSort (fun a b c => precedes_trans a.1 b.1 c.1)
    (fun a b => precedes_total a.1 b.1) _

mutual

lemma Node.walk_eq : ∀ n : Node, n.walk = n.files.filter fun f => !f.1.any Name.isHidden
  | .file bytes => rfl
  | .dir es => by rw [walk, files, walkEntries_eq es]
  | .link target => rfl
  | .special content => rfl

lemma Node.walkEntries_eq : ∀ es : List (Name × Node),
    walkEntries es = (entryFiles es).filter fun f => !f.1.any Name.isHidden
  | [] => rfl
  | (name, n) :: es => by
    rw [walkEntries, entryFiles, List.filter_append, List.filter_map, walkEntries_eq es, walk_eq n]
    cases h : name.isHidden <;> simp [h, Function.comp_def]

end

lemma Node.pages_eq_map {extensions : List String} {n : Node} {fs : List (List Name × List UInt8)}
    (p : Path) (hfs : (n.files.filter fun f =>
      !f.1.any Name.isHidden && f.1.getLast?.any (Name.hasExtension extensions)) = fs)
    (h : fs.Pairwise fun a b => precedes a.1 b.1 = true) :
    n.pages extensions p = fs.map fun f => ⟨f.1.foldl Path.join p, f.1, f.2⟩ := by
  rw [Node.pages, walk_eq, List.filter_filter]
  simp only [Bool.and_comm]
  rw [hfs, List.mergeSort_of_pairwise h]

lemma Node.mem_pages_iff {extensions : List String} {p : Path} {n : Node} {page : Page} :
    page ∈ n.pages extensions p ↔ (page.names, page.bytes) ∈ n.files ∧
      (∀ name ∈ page.names, name.isHidden = false) ∧
      page.names.getLast?.any (Name.hasExtension extensions) = true ∧
      page.path = page.names.foldl Path.join p := by
  rw [Node.pages, List.mem_map, walk_eq]
  simp only [List.mem_mergeSort, List.mem_filter, Bool.not_eq_true', List.any_eq_false,
    Bool.not_eq_true]
  constructor
  · rintro ⟨f, ⟨⟨hf, hshown⟩, hextension⟩, rfl⟩
    exact ⟨hf, hshown, hextension, rfl⟩
  · rintro ⟨hf, hshown, hextension, hpath⟩
    exact ⟨(page.names, page.bytes), ⟨⟨hf, hshown⟩, hextension⟩, by rw [← hpath]⟩

lemma Node.mem_pages {extensions : List String} {p : Path} {n : Node} {page : Page}
    (h : page ∈ n.pages extensions p) :
    (page.names, page.bytes) ∈ n.files ∧ page.path = page.names.foldl Path.join p := by
  obtain ⟨hfile, -, -, hpath⟩ := mem_pages_iff.mp h
  exact ⟨hfile, hpath⟩

lemma Tree.pages?_eq_some {t : Tree} {extensions : List String} {p : Path} {pages : List Page}
    (h : t.pages? extensions p = some pages) :
    (pages.Pairwise fun a b => precedes a.names b.names = true) ∧
      ∃ names node, t.resolve p = .ok (names, node) ∧ ∀ page ∈ pages,
        ∃ ns, (ns, page.bytes) ∈ node.files ∧ page.path = ns.foldl Path.join p := by
  rw [Tree.pages?] at h
  split at h
  · cases h
  · rename_i names bytes hresolve
    cases h
    refine ⟨List.pairwise_singleton _ _, names, _, hresolve, fun page hpage => ?_⟩
    obtain rfl := List.mem_singleton.mp hpage
    exact ⟨[], by simp [Node.files], rfl⟩
  · rename_i names node _ hresolve
    cases h
    exact ⟨Node.pages_sorted _ _ _, names, _, hresolve, fun page hpage => ⟨_, Node.mem_pages hpage⟩⟩

end TaintGrep.Files
