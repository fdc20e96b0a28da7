import Mathlib.Data.List.TakeWhile
import Mathlib.Tactic.Lemma
import TaintGrep.Page.Response
import TaintGrep.Text.Basic

/-! A content type is textual exactly if, after blanks, it begins with the spelling of a textual type in any
ASCII case. So parameters, case and blanks around the type make no difference, and whatever follows an
accepted type, it stays accepted. -/

namespace TaintGrep

namespace Text

def AllBlank (cs : List Char) : Prop := ∀ c ∈ cs, isBlank c = true

lemma isBlank_toLower (c : Char) : isBlank c.toLower = isBlank c :=
  forall_toLower (P := fun c d => isBlank d = isBlank c) (by decide +kernel) (fun _ _ => rfl) c

variable {cs ws : List Char}

lemma map_toLower_trimChars (cs : List Char) :
    (trimChars cs).map Char.toLower = trimChars (cs.map Char.toLower) := by
  have hblank : isBlank ∘ Char.toLower = isBlank := funext isBlank_toLower
  simp only [trimChars, List.dropWhile_map, ← List.map_reverse, hblank]

lemma trimChars_append_left (hws : AllBlank ws) (cs : List Char) : trimChars (ws ++ cs) = trimChars cs := by
  rw [trimChars, List.dropWhile_append_of_pos hws, ← trimChars]

lemma trimChars_append_right (hws : AllBlank ws) (cs : List Char) : trimChars (cs ++ ws) = trimChars cs := by
  have hnone : ws.dropWhile isBlank = [] := List.dropWhile_eq_nil_iff.mpr hws
  have hreverse : AllBlank ws.reverse := fun c hc => hws c (List.mem_reverse.mp hc)
  rw [trimChars, trimChars, List.dropWhile_append]
  split
  · rename_i hempty
    rw [List.isEmpty_iff.mp hempty, hnone]
  · rw [List.reverse_append, List.dropWhile_append_of_pos hreverse]

lemma exists_around_trimChars (cs : List Char) :
    ∃ before after, cs = before ++ trimChars cs ++ after ∧ AllBlank before := by
  refine ⟨cs.takeWhile isBlank, ((cs.dropWhile isBlank).reverse.takeWhile isBlank).reverse, ?_,
    fun c hc => of_mem_takeWhile hc⟩
  rw [List.append_assoc, trimChars, ← List.reverse_append, List.takeWhile_append_dropWhile,
    List.reverse_reverse, List.takeWhile_append_dropWhile]

lemma dropWhile_isBlank_append (h : ∀ c ∈ cs, isBlank c = false) (hne : cs ≠ []) (ds : List Char) :
    (cs ++ ds).dropWhile isBlank = cs ++ ds := by
  obtain ⟨c, cs, rfl⟩ := List.exists_cons_of_ne_nil hne
  exact List.dropWhile_cons_of_neg (by simp [h c List.mem_cons_self])

lemma exists_trimChars_append (h : ∀ c ∈ cs, isBlank c = false) (hne : cs ≠ []) (ds : List Char) :
    ∃ rest, trimChars (cs ++ ds) = cs ++ rest := by
  have hreverse : ∀ c ∈ cs.reverse, isBlank c = false := fun c hc => h c (List.mem_reverse.mp hc)
  have hkept := dropWhile_isBlank_append hreverse (by simpa using hne) []
  rw [List.append_nil] at hkept
  rw [trimChars, dropWhile_isBlank_append h hne, List.reverse_append, List.dropWhile_append]
  split
  · exact ⟨[], by rw [hkept, List.reverse_reverse, List.append_nil]⟩
  · exact ⟨_, by rw [List.reverse_append, List.reverse_reverse]⟩

end Text

namespace ContentType

open TaintGrep.Text

def Announces (s : String) : Prop :=
  ∃ blanks spelled rest, s.toList = blanks ++ spelled ++ rest ∧ AllBlank blanks ∧
    ∃ t ∈ textual, spelled.map Char.toLower = t.toList

lemma toList_mediaType (s : String) :
    (mediaType s).toList = (trimChars (s.toList.takeWhile (· ≠ ';'))).map Char.toLower := by
  simp [mediaType]

lemma isTextual_iff_isPrefix {s : String} :
    isTextual s = true ↔ ∃ t ∈ textual, t.toList <+: (mediaType s).toList := by
  simp [isTextual, List.any_eq_true]

lemma plain_of_mem_textual {t : String} (h : t ∈ textual) :
    t.toList ≠ [] ∧ ∀ c ∈ t.toList, isBlank c = false ∧ c ≠ ';' := by
  have htable : ∀ t ∈ textual, t.toList ≠ [] ∧
      (t.toList.all fun c => !isBlank c && c != ';') = true := by decide +kernel
  obtain ⟨hne, hall⟩ := htable t h
  exact ⟨hne, by simpa using hall⟩

lemma semicolon_of_toLower (c : Char) : c.toLower = ';' → c = ';' :=
  forall_toLower (P := fun c d => d = ';' → c = ';') (by decide +kernel) (fun _ _ h => h) c

lemma semicolon_notMem_of_allBlank {cs : List Char} (h : AllBlank cs) : ';' ∉ cs := fun hmem => by
  cases h _ hmem

lemma kept_of_notMem {cs : List Char} (h : ';' ∉ cs) : ∀ c ∈ cs, decide (c ≠ ';') = true := by
  intro c hc
  refine decide_eq_true ?_
  rintro rfl
  exact h hc

lemma takeWhile_of_notMem {cs : List Char} (h : ';' ∉ cs) : cs.takeWhile (· ≠ ';') = cs :=
  List.takeWhile_eq_self_iff.mpr (kept_of_notMem h)

lemma announces_of_isTextual {s : String} (h : isTextual s = true) : Announces s := by
  obtain ⟨t, ht, rest, hrest⟩ := isTextual_iff_isPrefix.mp h
  rw [toList_mediaType, eq_comm, List.map_eq_append_iff] at hrest
  obtain ⟨spelled, more, htrim, hspelled, -⟩ := hrest
  obtain ⟨before, after, hbefore, hblank⟩ := exists_around_trimChars (s.toList.takeWhile (· ≠ ';'))
  have hsplit := List.takeWhile_append_dropWhile (p := (· ≠ ';')) (l := s.toList)
  rw [hbefore, htrim] at hsplit
  refine ⟨before, spelled, more ++ after ++ s.toList.dropWhile (· ≠ ';'), hsplit.symm.trans ?_, hblank,
    t, ht, hspelled⟩
  simp only [List.append_assoc]

lemma isTextual_of_announces {s : String} (h : Announces s) : isTextual s = true := by
  obtain ⟨blanks, spelled, rest, hs, hblanks, t, ht, hspelled⟩ := h
  obtain ⟨hne, hplain⟩ := plain_of_mem_textual ht
  have hlower : ∀ c ∈ spelled, isBlank c.toLower = false ∧ c.toLower ≠ ';' :=
    fun c hc => hplain _ (hspelled ▸ List.mem_map_of_mem hc)
  have hspelledBlank : ∀ c ∈ spelled, isBlank c = false :=
    fun c hc => (isBlank_toLower c).symm.trans (hlower c hc).1
  have hspelledNe : spelled ≠ [] := by
    rintro rfl
    exact hne hspelled.symm
  have hspelledSemicolon : ';' ∉ spelled := fun hmem => (hlower _ hmem).2 rfl
  have htake : s.toList.takeWhile (· ≠ ';') = blanks ++ (spelled ++ rest.takeWhile (· ≠ ';')) := by
    rw [hs, List.append_assoc,
      List.takeWhile_append_of_pos (kept_of_notMem (semicolon_notMem_of_allBlank hblanks)),
      List.takeWhile_append_of_pos (kept_of_notMem hspelledSemicolon)]
  obtain ⟨more, hmore⟩ := exists_trimChars_append hspelledBlank hspelledNe (rest.takeWhile (· ≠ ';'))
  refine isTextual_iff_isPrefix.mpr ⟨t, ht, more.map Char.toLower, ?_⟩
  rw [toList_mediaType, htake, trimChars_append_left hblanks, hmore, List.map_append, hspelled]

lemma isTextual_iff_announces {s : String} : isTextual s = true ↔ Announces s :=
  ⟨announces_of_isTextual, isTextual_of_announces⟩

lemma isTextual_append {t : String} (h : isTextual t = true) (more : String) :
    isTextual (t ++ more) = true := by
  obtain ⟨blanks, spelled, rest, hs, hspelled⟩ := announces_of_isTextual h
  refine isTextual_of_announces ⟨blanks, spelled, rest ++ more.toList, ?_, hspelled⟩
  rw [String.toList_append, hs, List.append_assoc]

variable {m m' w₁ w₂ : String}

lemma semicolon_notMem_padded (hm : ';' ∉ m.toList) (hcase : sameAscii m' m = true)
    (h₁ : AllBlank w₁.toList) (h₂ : AllBlank w₂.toList) : ';' ∉ (w₁ ++ m' ++ w₂).toList := by
  have hm' : ';' ∉ m'.toList := by
    intro hmem
    have hlower : ';' ∈ (asciiLower m').toList := by
      rw [toList_asciiLower]
      exact List.mem_map.mpr ⟨';', hmem, rfl⟩
    rw [sameAscii_iff.mp hcase, toList_asciiLower, List.mem_map] at hlower
    obtain ⟨c, hc, hsemicolon⟩ := hlower
    exact hm (semicolon_of_toLower c hsemicolon ▸ hc)
  simp [semicolon_notMem_of_allBlank h₁, hm', semicolon_notMem_of_allBlank h₂]

lemma mediaType_parameters {s : String} (h : ';' ∉ s.toList) (q : String) :
    mediaType (s ++ ";" ++ q) = mediaType s := by
  have htake : (s ++ ";" ++ q).toList.takeWhile (· ≠ ';') = s.toList := by
    rw [String.toList_append, String.toList_append, List.append_assoc]
    exact takeWhile_append_cons q.toList (kept_of_notMem h) rfl
  rw [mediaType, mediaType, htake, takeWhile_of_notMem h]

lemma mediaType_padded (hm : ';' ∉ m.toList) (hcase : sameAscii m' m = true)
    (h₁ : AllBlank w₁.toList) (h₂ : AllBlank w₂.toList) :
    mediaType (w₁ ++ m' ++ w₂) = mediaType m := by
  have hlower : m'.toList.map Char.toLower = m.toList.map Char.toLower := by
    rw [← toList_asciiLower, ← toList_asciiLower, sameAscii_iff.mp hcase]
  apply String.toList_inj.mp
  calc (mediaType (w₁ ++ m' ++ w₂)).toList
      = (trimChars (w₁.toList ++ m'.toList ++ w₂.toList)).map Char.toLower := by
        rw [toList_mediaType, takeWhile_of_notMem (semicolon_notMem_padded hm hcase h₁ h₂),
          String.toList_append, String.toList_append]
    _ = trimChars (m'.toList.map Char.toLower) := by
        rw [trimChars_append_right h₂, trimChars_append_left h₁, map_toLower_trimChars]
    _ = (mediaType m).toList := by
        rw [hlower, ← map_toLower_trimChars, toList_mediaType, takeWhile_of_notMem hm]

theorem isTextual_respelled :
    (∀ s, isTextual s = true ↔ Announces s) ∧
    (∀ m m' w₁ w₂ q : String, ';' ∉ m.toList → sameAscii m' m = true → AllBlank w₁.toList →
      AllBlank w₂.toList →
        isTextual (w₁ ++ m' ++ w₂ ++ ";" ++ q) = isTextual (w₁ ++ m' ++ w₂) ∧
        isTextual (w₁ ++ m' ++ w₂) = isTextual m) ∧
    ∀ t more : String, isTextual t = true → isTextual (t ++ more) = true := by
  refine ⟨fun s => isTextual_iff_announces, fun m m' w₁ w₂ q hm hcase h₁ h₂ => ⟨?_, ?_⟩,
    fun t more h => isTextual_append h more⟩
  · rw [isTextual, isTextual, mediaType_parameters (semicolon_notMem_padded hm hcase h₁ h₂)]
  · rw [isTextual, isTextual, mediaType_padded hm hcase h₁ h₂]

/-- A long s is no ASCII letter in another case, and a blank inside a type is kept. -/
theorem isTextual_respelled_long_s :
    AllBlank "\u3000\t".toList ∧ AllBlank "\u2028".toList ∧
      sameAscii "TEXT/ſ X" "text/ſ x" = true ∧
      isTextual ("\u3000\t" ++ "TEXT/ſ X" ++ "\u2028" ++ ";" ++ "a;b") = true ∧
      sameAscii "Application/JAVAſCRIPT" "application/javaſcript" = true ∧
      isTextual ("\u3000\t" ++ "Application/JAVAſCRIPT" ++ "\u2028" ++ ";" ++ "a;b") = false ∧
      isTextual ("text/" ++ "\u2028;") = true := by
  have h₁ : AllBlank "\u3000\t".toList := List.all_eq_true.mp (by decide +kernel)
  have h₂ : AllBlank "\u2028".toList := List.all_eq_true.mp (by decide +kernel)
  obtain ⟨-, hrespelled, hmore⟩ := isTextual_respelled
  have haccepted : sameAscii "TEXT/ſ X" "text/ſ x" = true := by decide +kernel
  obtain ⟨hq, hm⟩ := hrespelled _ _ _ _ "a;b" (by decide +kernel) haccepted h₁ h₂
  have hrefused : sameAscii "Application/JAVAſCRIPT" "application/javaſcript" = true := by
    decide +kernel
  obtain ⟨hq', hm'⟩ := hrespelled _ _ _ _ "a;b" (by decide +kernel) hrefused h₁ h₂
  exact ⟨h₁, h₂, haccepted, (hq.trans hm).trans (by decide +kernel), hrefused,
    (hq'.trans hm').trans (by decide +kernel), hmore _ _ (by decide +kernel)⟩

end ContentType

end TaintGrep
