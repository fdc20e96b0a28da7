import TaintGrep.Proofs.ScriptTags
import TaintGrep.Text.Basic

/-! Where case folding agrees with simpler comparisons: only a blank itself folds to a blank, only a
parenthesis itself to a parenthesis, and ASCII characters fold to their lower case. -/

namespace TaintGrep.Text

lemma foldCode_eq_or (rows : List FoldRow) (n : Nat) :
    foldCode rows n = n ∨ ∃ r ∈ rows, r.target ≤ foldCode rows n ∧
      foldCode rows n ≤ r.target + (r.last - r.first) := by
  induction rows with
  | nil => exact Or.inl rfl
  | cons r rows ih =>
    rw [foldCode]
    split
    · exact Or.inl rfl
    · split
      · refine Or.inr ⟨r, List.mem_cons_self, ?_⟩
        omega
      · exact ih.imp_right fun ⟨q, hq, h⟩ => ⟨q, List.mem_cons_of_mem r hq, h⟩

lemma isValidChar_foldCode (c : Char) : (foldCode foldRows c.toNat).isValidChar := by
  have hrows : ∀ r ∈ foldRows, r.target + (r.last - r.first) < 0xD800 ∨
      0xDFFF < r.target ∧ r.target + (r.last - r.first) < 0x110000 := by decide +kernel
  rcases foldCode_eq_or foldRows c.toNat with hself | ⟨r, hr, hle, hge⟩
  · rw [hself]
    exact c.valid
  · have hr := hrows r hr
    unfold Nat.isValidChar
    omega

lemma toNat_fold (c : Char) : (fold c).toNat = foldCode foldRows c.toNat := by
  rw [fold, Char.ofNat, dif_pos (isValidChar_foldCode c)]
  rfl

lemma fold_eq_self_of_outside {c : Char} (h : ∀ r ∈ foldRows,
    (fold c).toNat < r.target ∨ r.target + (r.last - r.first) < (fold c).toNat) : fold c = c := by
  rcases foldCode_eq_or foldRows c.toNat with hself | ⟨r, hr, hle, hge⟩
  · rw [fold, hself, Char.ofNat_toNat]
  · have hr := h r hr
    rw [toNat_fold] at hr
    omega

lemma fold_eq_self_of_isBlank_fold {c : Char} (h : isBlank (fold c) = true) : fold c = c := by
  have hrows : ∀ r ∈ foldRows, ∀ b ∈ Script.blankCodes,
      b < r.target ∨ r.target + (r.last - r.first) < b := by decide +kernel
  exact fold_eq_self_of_outside fun r hr => hrows r hr _ (Script.toNat_mem_blankCodes h)

lemma eq_of_fold_eq_of_isBlank {c d : Char} (h : fold c = fold d) (hd : isBlank d = true) : c = d := by
  have hfold : fold c = d := h.trans (Script.fold_of_isBlank hd)
  rw [← hfold, fold_eq_self_of_isBlank_fold (by rwa [hfold])]

def marks : List Char := ['\n', ' ', '(', ')']

lemma eq_of_fold_eq_of_mem_marks {c d : Char} (h : fold c = fold d) (hd : d ∈ marks) : c = d := by
  have hmarks : (marks.all fun m => fold m = m ∧ m.toNat ≤ 0x29) = true := by decide +kernel
  have hrows : ∀ r ∈ foldRows, 0x29 < r.target := by decide +kernel
  obtain ⟨hself, hle⟩ : fold d = d ∧ d.toNat ≤ 0x29 := by
    simpa using List.all_eq_true.mp hmarks d hd
  have hfold : fold c = d := h.trans hself
  rw [← hfold, fold_eq_self_of_outside fun r hr => Or.inl ?_]
  rw [hfold]
  exact Nat.lt_of_le_of_lt hle (hrows r hr)

lemma fold_eq_toLower {c : Char} (h : c.toNat < 128) : fold c = c.toLower := by
  have htable : ∀ n < 128, fold (Char.ofNat n) = (Char.ofNat n).toLower := by decide +kernel
  rw [← Char.ofNat_toNat c]
  exact htable _ h

def IsAscii (s : String) : Prop := ∀ c ∈ s.toList, c.toNat < 128

lemma sameAscii_of_fold_eq {n m : String} (hn : IsAscii n) (hm : IsAscii m)
    (h : n.toList.map fold = m.toList.map fold) : sameAscii n m = true := by
  have hlower : ∀ s, IsAscii s → s.toList.map fold = s.toList.map Char.toLower :=
    fun s hs => List.map_congr_left fun c hc => fold_eq_toLower (hs c hc)
  rw [hlower n hn, hlower m hm] at h
  rw [sameAscii_iff, asciiLower, asciiLower, h]

end TaintGrep.Text
