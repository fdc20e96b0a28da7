import TaintGrep.Proofs.Folding
import TaintGrep.Proofs.SinkCalls

/-! Calls of a sink under other spellings. Names and texts that agree up to case folding have their calls
at the same characters; only byte offsets move, as spellings of one letter can differ in size. -/

namespace TaintGrep

lemma ScanMode.keep_map {α β : Type} (m : ScanMode) (f : α → β) (l : List α) :
    m.keep (l.map f) = (m.keep l).map f := by
  cases m with
  | first => exact List.map_take.symm
  | all => rfl

namespace Call

open TaintGrep.Text

variable {n n' : String} {cs ds : List Char}

lemma spelling?_congr (h : n.toList.map fold = n'.toList.map fold) :
    spelling? n.toList = spelling? n'.toList := by
  funext cs
  apply Option.ext
  intro s
  rw [spelling?_eq_some_iff, spelling?_eq_some_iff, Spelling.Spells, Spelling.Spells, h]

lemma find_congr (h : n.toList.map fold = n'.toList.map fold) (mode : ScanMode) (script : String) :
    find mode n' script = (find mode n script).map fun c => { c with sink := n' } := by
  rw [find, find, spelling?_congr h, ← ScanMode.keep_map, List.map_map]
  rfl

lemma exists_fold_eq (h : ds.map fold = cs.map fold) {d : Char} (hd : d ∈ ds) :
    ∃ c ∈ cs, fold c = fold d := by
  apply List.mem_map.mp
  rw [← h]
  exact List.mem_map_of_mem hd

/-- The marks of a call stand where they stood, so a call stays one. -/
lemma Spelling.Spells.exists_of_fold {s : Spelling} (hs : s.Spells n) {rest : List Char}
    (h : ds.map fold = (s.chars ++ rest).map fold) :
    ∃ s' : Spelling, s'.Spells n ∧ ∃ rest', ds = s'.chars ++ rest' := by
  have hchars : s.chars ++ rest = s.name ++ (s.gap ++ '(' :: (s.arguments ++ ')' :: rest)) := by
    simp [Spelling.chars]
  rw [hchars, List.map_append, List.map_append, List.map_cons, List.map_append, List.map_cons] at h
  obtain ⟨name, ds₁, rfl, hname, h₁⟩ := List.map_eq_append_iff.mp h
  obtain ⟨gap, ds₂, rfl, hgap, h₂⟩ := List.map_eq_append_iff.mp h₁
  obtain ⟨o, ds₃, rfl, ho, h₃⟩ := List.map_eq_cons_iff.mp h₂
  obtain ⟨arguments, ds₄, rfl, harguments, h₄⟩ := List.map_eq_append_iff.mp h₃
  obtain ⟨c, rest', rfl, hc, -⟩ := List.map_eq_cons_iff.mp h₄
  obtain rfl : o = '(' := eq_of_fold_eq_of_mem_marks ho (by decide)
  obtain rfl : c = ')' := eq_of_fold_eq_of_mem_marks hc (by decide)
  refine ⟨⟨name, gap, arguments⟩, ⟨hname.trans hs.1, fun g hg => ?_, fun a ha => ?_⟩, rest', by
    simp [Spelling.chars]⟩
  · obtain ⟨g', hg', he⟩ := exists_fold_eq hgap hg
    rw [hs.2.1 g' hg'] at he
    exact eq_of_fold_eq_of_mem_marks he.symm (by decide)
  · obtain ⟨a', ha', he⟩ := exists_fold_eq harguments ha
    obtain ⟨hparenthesis, hnewline⟩ := hs.2.2 a' ha'
    refine ⟨?_, ?_⟩
    · rintro rfl
      exact hparenthesis (eq_of_fold_eq_of_mem_marks he (by decide))
    · rintro rfl
      exact hnewline (eq_of_fold_eq_of_mem_marks he (by decide))

lemma spelling?_eq_none_of_fold (h : ds.map fold = cs.map fold) (hcs : spelling? n.toList cs = none) :
    spelling? n.toList ds = none := by
  cases hds : spelling? n.toList ds with
  | none => rfl
  | some s =>
    obtain ⟨hs, rest, rfl⟩ := spelling?_eq_some_iff.mp hds
    rw [spelling?_eq_some_iff.mpr (hs.exists_of_fold h.symm).choose_spec] at hcs
    cases hcs

def Spelling.respelled (s : Spelling) (new : List Char) : Spelling := { s with name := new }

variable {s : Spelling} {new : List Char}

lemma Spelling.chars_eq (s : Spelling) : s.chars = s.name ++ (s.gap ++ '(' :: (s.arguments ++ [')'])) := by
  rw [Spelling.chars, List.append_assoc]

lemma Spelling.map_fold_respelled (h : new.map fold = s.name.map fold) :
    (s.respelled new).chars.map fold = s.chars.map fold := by
  simp only [Spelling.chars_eq, Spelling.respelled, List.map_append, h]

lemma Spelling.Spells.respelled (hs : s.Spells n) (h : new.map fold = s.name.map fold) :
    (s.respelled new).Spells n :=
  ⟨h.trans hs.1, hs.2⟩

lemma scanned_respelled {p q : Place} {before after : List (Place × Spelling)}
    (h : Scanned (spelling? n.toList) Spelling.chars p cs (before ++ (q, s) :: after)) :
    ∃ passed rest, cs = passed ++ (s.chars ++ rest) ∧ q = p.advance passed ∧ s.Spells n ∧
      ∀ new, new.map fold = s.name.map fold →
        Scanned (spelling? n.toList) Spelling.chars p (passed ++ ((s.respelled new).chars ++ rest))
          (before ++ (q, s.respelled new) :: after.map fun m =>
            (Place.moved (q.advance s.chars) (q.advance (s.respelled new).chars) m.1, m.2)) := by
  -- on the calls before it, which end before it begins and so stay as they are
  induction before generalizing p cs with
  | nil =>
    cases h with
    | @found _ gap _ rest _ hgap hfind htail =>
      obtain ⟨hs, -⟩ := spelling?_eq_some_iff.mp hfind
      refine ⟨gap, rest, rfl, rfl, hs, fun new hnew => .found (fun g hg hsuffix => ?_) ?_ (htail.moved _)⟩
      · apply spelling?_eq_none_of_fold _ (hgap g hg hsuffix)
        simp only [List.map_append, Spelling.map_fold_respelled hnew]
      · exact spelling?_eq_some_iff.mpr ⟨hs.respelled hnew, rest, rfl⟩
  | cons m before ih =>
    cases h with
    | @found _ gap a _ _ hgap hfind htail =>
      obtain ⟨passed, rest, rfl, rfl, hs, hrespelled⟩ := ih htail
      obtain ⟨ha, -⟩ := spelling?_eq_some_iff.mp hfind
      refine ⟨gap ++ (a.chars ++ passed), rest, by simp, by simp, hs, fun new hnew => ?_⟩
      rw [List.append_assoc, List.append_assoc]
      refine .found (fun g hg hsuffix => ?_) ?_ (hrespelled new hnew)
      · apply spelling?_eq_none_of_fold _ (hgap g hg hsuffix)
        simp only [List.map_append, Spelling.map_fold_respelled hnew]
      · exact spelling?_eq_some_iff.mpr ⟨ha, _, rfl⟩

lemma ofSpelling_moved (q : Place) (new : List Char) (m : Place × Spelling) :
    ofSpelling n (Place.moved (q.advance s.chars) (q.advance (s.respelled new).chars) m.1) m.2 =
      { ofSpelling n m.1 m.2 with
        offset := m.1.offset + byteLength new - byteLength s.name } := by
  rw [ofSpelling, ofSpelling, Call.mk.injEq]
  refine ⟨rfl, rfl, rfl, ?_⟩
  simp only [Place.moved, Place.advance_offset, Spelling.chars_eq, Spelling.respelled, byteLength_append]
  omega

lemma find_of_scanned {ms : List (Place × Spelling)}
    (h : Scanned (spelling? n.toList) Spelling.chars Place.start cs ms) :
    find .all n (String.ofList cs) = ms.map fun m => ofSpelling n m.1 m.2 := by
  have hscan : scan (spelling? n.toList) Spelling.size cs = ms := h.scanFrom_eq (reads_spelling? n)
  rw [find, ScanMode.keep_all, String.toList_ofList, hscan]

/-- Later calls start after the old spelling of the name, so no offset is cut off at zero. -/
theorem find_folded (h : n.toList.map fold = n'.toList.map fold) (script : String) :
    (∀ mode, find mode n' script = (find mode n script).map fun c => { c with sink := n' }) ∧
    ∀ before c after, find .all n script = before ++ c :: after →
      ∃ (s : Spelling) (passed rest : List Char), script.toList = passed ++ (s.chars ++ rest) ∧
        byteLength passed = c.offset ∧ s.Spells n ∧ c.text = String.ofList s.chars ∧
        ∀ new, new.map fold = s.name.map fold →
          find .all n (String.ofList (passed ++ ((s.respelled new).chars ++ rest))) =
            before ++ { c with text := String.ofList (s.respelled new).chars } ::
              after.map fun d => { d with offset := d.offset + byteLength new - byteLength s.name } := by
  refine ⟨fun mode => find_congr h mode script, fun before c after hfind => ?_⟩
  obtain ⟨ms, hscanned, hms⟩ := scanned_find n script
  rw [hfind, eq_comm] at hms
  obtain ⟨mb, mr, rfl, rfl, hrest⟩ := List.map_eq_append_iff.mp hms
  obtain ⟨⟨q, s⟩, ma, rfl, rfl, rfl⟩ := List.map_eq_cons_iff.mp hrest
  obtain ⟨passed, rest, hscript, rfl, hs, hrespelled⟩ := scanned_respelled hscanned
  refine ⟨s, passed, rest, hscript, ?_, hs, rfl, fun new hnew => ?_⟩
  · rw [ofSpelling, Place.start_advance]
  · rw [find_of_scanned (hrespelled new hnew), List.map_append, List.map_cons, List.map_map, List.map_map]
    simp only [Function.comp_def, ofSpelling_moved]
    rfl

/-- The kelvin sign is a `k` of three bytes, and the long s an `s` of two. -/
theorem find_folded_kelvin :
    "ask".toList.map fold = "ASK".toList.map fold ∧
    find .all "ask" "Ask(a); ask (b)" = [] ++ ⟨"ask", "a", "Ask(a)", 0⟩ :: [⟨"ask", "b", "ask (b)", 8⟩] ∧
    find .all "ASK" "Ask(a); ask (b)" = [⟨"ASK", "a", "Ask(a)", 0⟩, ⟨"ASK", "b", "ask (b)", 8⟩] ∧
    find .all "ask" "a\u017f\u212a(a); ask (b)" =
      [⟨"ask", "a", "a\u017f\u212a(a)", 0⟩, ⟨"ask", "b", "ask (b)", 11⟩] := by
  have hfold : "ask".toList.map fold = "ASK".toList.map fold := by decide +kernel
  have hfind : find .all "ask" "Ask(a); ask (b)" =
      [] ++ ⟨"ask", "a", "Ask(a)", 0⟩ :: [⟨"ask", "b", "ask (b)", 8⟩] := by decide +kernel
  obtain ⟨hnames, hrespell⟩ := find_folded hfold "Ask(a); ask (b)"
  obtain ⟨s, passed, rest, hscript, hpassed, hs, -, hnew⟩ := hrespell _ _ _ hfind
  obtain rfl := byteLength_eq_zero_iff.mp hpassed
  have hstarts : StartsAt "ask" "Ask(a); ask (b)" 0 ⟨['A', 's', 'k'], [], ['a']⟩ :=
    ⟨⟨by decide +kernel, by simp, by simp⟩, "; ask (b)".toList, [], by decide, rfl⟩
  obtain rfl := hstarts.unique ⟨hs, rest, [], hscript, rfl⟩
  have hrest : "Ask(a)".toList ++ "; ask (b)".toList = "Ask(a)".toList ++ rest := hscript
  obtain rfl := List.append_cancel_left hrest
  refine ⟨hfold, hfind, (hnames .all).trans (congrArg (List.map _) hfind), ?_⟩
  exact hnew ['a', '\u017f', '\u212a'] (by decide +kernel)

end Call

end TaintGrep
