import Mathlib.Tactic.Lemma
import TaintGrep.Page.Script

/-! The tags of script blocks as a grammar. The readers accept exactly its words, and since a tag has
no angle bracket inside, a tag is determined by where it starts and two tags never overlap. -/

namespace TaintGrep.Script

open TaintGrep.Text

def Blanks (cs : List Char) : Prop := ∀ c ∈ cs, isBlank c = true

def IsTagEnd (t : List Char) : Prop :=
  ∃ word blanks, t = word ++ (blanks ++ ['>']) ∧
    word.map fold = "script".toList.map fold ∧ Blanks blanks

def IsOpeningTag (t : List Char) : Prop :=
  ∃ blanks e, t = '<' :: (blanks ++ e) ∧ Blanks blanks ∧ IsTagEnd e

def IsClosingTag (t : List Char) : Prop :=
  ∃ before after e, t = '<' :: (before ++ '/' :: (after ++ e)) ∧
    Blanks before ∧ Blanks after ∧ IsTagEnd e

def blankCodes : List Nat :=
  List.range' 0x09 5 ++ List.range' 0x2000 11 ++
    [0x20, 0x85, 0xA0, 0x1680, 0x2028, 0x2029, 0x202F, 0x205F, 0x3000]

lemma toNat_mem_blankCodes {c : Char} (h : isBlank c = true) : c.toNat ∈ blankCodes := by
  simp only [isBlank, Bool.or_eq_true, Bool.and_eq_true, decide_eq_true_eq, beq_iff_eq] at h
  simp only [blankCodes, List.mem_append, List.mem_range'_1, List.mem_cons, List.not_mem_nil, or_false]
  omega

lemma fold_of_isBlank {c : Char} (h : isBlank c = true) : fold c = c := by
  have hf : ∀ n ∈ blankCodes, foldCode foldRows n = n := by decide +kernel
  rw [fold, hf _ (toNat_mem_blankCodes h), Char.ofNat_toNat]

lemma isBlank_eq_false_of_fold_eq {c d : Char} (h : fold c = fold d) (hd : isBlank (fold d) = false) :
    isBlank c = false := by
  cases hc : isBlank c with
  | false => rfl
  | true =>
    rw [← h, fold_of_isBlank hc, hc] at hd
    cases hd

lemma IsTagEnd.exists_head {e : List Char} (h : IsTagEnd e) :
    ∃ c e', e = c :: e' ∧ isBlank c = false := by
  obtain ⟨word, blanks, rfl, hw, -⟩ := h
  cases word with
  | nil => simp at hw
  | cons c word =>
    have hc : fold c = fold 's' := by simpa using congrArg List.head? hw
    exact ⟨c, _, rfl, isBlank_eq_false_of_fold_eq hc (by decide +kernel)⟩

lemma span_blanks {blanks e : List Char} (r : List Char) (hb : Blanks blanks) (he : IsTagEnd e) :
    (blanks ++ (e ++ r)).takeWhile isBlank = blanks ∧
      (blanks ++ (e ++ r)).dropWhile isBlank = e ++ r := by
  obtain ⟨c, e, rfl, hc⟩ := he.exists_head
  exact ⟨takeWhile_append_cons _ hb hc, dropWhile_append_cons _ hb hc⟩

lemma tagEnd?_eq_some_iff {cs t r : List Char} :
    tagEnd? cs = some (t, r) ↔ cs = t ++ r ∧ IsTagEnd t := by
  constructor
  · intro h
    refine ⟨tagEnd?_eq_some h, ?_⟩
    unfold tagEnd? at h
    split at h
    · simp at h
    · rename_i word ds ht
      split at h
      · obtain ⟨rfl, rfl⟩ := Prod.mk.inj (Option.some.inj h)
        exact ⟨word, ds.takeWhile isBlank, List.append_assoc _ _ _, (takeFolded?_eq_some ht).2,
          fun c hc => of_mem_takeWhile hc⟩
      · simp at h
  · rintro ⟨rfl, word, blanks, rfl, hw, hb⟩
    have hg : isBlank '>' = false := by decide
    simp only [tagEnd?, List.append_assoc, takeFolded?_append _ hw, List.cons_append, List.nil_append,
      dropWhile_append_cons _ hb hg, takeWhile_append_cons _ hb hg]

lemma openingTag?_eq_some_iff {cs t r : List Char} :
    openingTag? cs = some (t, r) ↔ cs = t ++ r ∧ IsOpeningTag t := by
  constructor
  · intro h
    refine ⟨openingTag?_eq_some h, ?_⟩
    unfold openingTag? at h
    split at h
    · rename_i ds
      obtain ⟨⟨e, q⟩, he, hu⟩ := Option.map_eq_some_iff.mp h
      obtain ⟨rfl, rfl⟩ := Prod.mk.inj hu
      exact ⟨ds.takeWhile isBlank, e, rfl, fun c hc => of_mem_takeWhile hc,
        (tagEnd?_eq_some_iff.mp he).2⟩
    · simp at h
  · rintro ⟨rfl, blanks, e, rfl, hb, he⟩
    obtain ⟨htake, hdrop⟩ := span_blanks r hb he
    have hr : tagEnd? (e ++ r) = some (e, r) := tagEnd?_eq_some_iff.mpr ⟨rfl, he⟩
    simp [openingTag?, htake, hdrop, hr]

lemma closingTag?_eq_some_iff {cs t r : List Char} :
    closingTag? cs = some (t, r) ↔ cs = t ++ r ∧ IsClosingTag t := by
  constructor
  · intro h
    refine ⟨closingTag?_eq_some h, ?_⟩
    unfold closingTag? at h
    split at h
    · rename_i ds
      split at h
      · rename_i es hd
        obtain ⟨⟨e, q⟩, he, hu⟩ := Option.map_eq_some_iff.mp h
        obtain ⟨rfl, rfl⟩ := Prod.mk.inj hu
        exact ⟨ds.takeWhile isBlank, es.takeWhile isBlank, e, by simp, fun c hc => of_mem_takeWhile hc,
          fun c hc => of_mem_takeWhile hc, (tagEnd?_eq_some_iff.mp he).2⟩
      · simp at h
    · simp at h
  · rintro ⟨rfl, before, after, e, rfl, hb, ha, he⟩
    obtain ⟨htake, hdrop⟩ := span_blanks r ha he
    have hs : isBlank '/' = false := by decide
    have hr : tagEnd? (e ++ r) = some (e, r) := tagEnd?_eq_some_iff.mpr ⟨rfl, he⟩
    simp [closingTag?, dropWhile_append_cons _ hb hs, takeWhile_append_cons _ hb hs, htake, hdrop, hr]

def Angled (t : List Char) : Prop :=
  ∃ u, t = '<' :: (u ++ ['>']) ∧ '<' ∉ u ∧ '>' ∉ u

lemma Blanks.notMem {cs : List Char} (h : Blanks cs) {c : Char} (hc : isBlank c = false) : c ∉ cs := by
  intro hm
  rw [h c hm] at hc
  cases hc

lemma IsTagEnd.exists_inside {e : List Char} (h : IsTagEnd e) :
    ∃ u, e = u ++ ['>'] ∧ '<' ∉ u ∧ '>' ∉ u := by
  obtain ⟨word, blanks, rfl, hw, hb⟩ := h
  have hn : ∀ c, fold c ∉ "script".toList.map fold → c ∉ word := by
    intro c hc hm
    exact hc (hw ▸ List.mem_map_of_mem hm)
  refine ⟨word ++ blanks, (List.append_assoc _ _ _).symm, ?_, ?_⟩
  · exact List.not_mem_append (hn _ (by decide +kernel)) (hb.notMem (by decide))
  · exact List.not_mem_append (hn _ (by decide +kernel)) (hb.notMem (by decide))

lemma IsOpeningTag.angled {t : List Char} (h : IsOpeningTag t) : Angled t := by
  obtain ⟨blanks, e, rfl, hb, he⟩ := h
  obtain ⟨u, rfl, hl, hr⟩ := he.exists_inside
  refine ⟨blanks ++ u, by simp, ?_, ?_⟩
  · exact List.not_mem_append (hb.notMem (by decide)) hl
  · exact List.not_mem_append (hb.notMem (by decide)) hr

lemma IsClosingTag.angled {t : List Char} (h : IsClosingTag t) : Angled t := by
  obtain ⟨before, after, e, rfl, hb, ha, he⟩ := h
  obtain ⟨u, rfl, hl, hr⟩ := he.exists_inside
  refine ⟨before ++ '/' :: (after ++ u), by simp, ?_, ?_⟩
  · simp [hb.notMem (c := '<') (by decide), ha.notMem (c := '<') (by decide), hl]
  · simp [hb.notMem (c := '>') (by decide), ha.notMem (c := '>') (by decide), hr]

namespace Angled

variable {t t' r r' : List Char}

lemma eq_of_append_eq (h : Angled t) (h' : Angled t') (he : t ++ r = t' ++ r') : t = t' := by
  obtain ⟨u, rfl, -, hu⟩ := h
  obtain ⟨u', rfl, -, hu'⟩ := h'
  have hc : u ++ '>' :: r = u' ++ '>' :: r' := by simpa using he
  have hs : ∀ v : List Char, '>' ∉ v → ∀ c ∈ v, (c != '>') = true := by
    intro v hv c hc
    simpa using ne_of_mem_of_not_mem hc hv
  have hw := congrArg (List.takeWhile (· != '>')) hc
  rw [takeWhile_append_cons _ (hs u hu) (by decide),
    takeWhile_append_cons _ (hs u' hu') (by decide)] at hw
  rw [hw]

lemma append_of_append_eq (h : Angled t) {g x : List Char} (hg : g ≠ [])
    (he : t ++ r = g ++ '<' :: x) : ∃ y, g = t ++ y := by
  obtain ⟨u, rfl, hl, -⟩ := h
  rcases List.append_eq_append_iff.mp he with ⟨y, hy, -⟩ | ⟨y, hy, hx⟩
  · exact ⟨y, hy⟩
  · cases y with
    | nil => exact ⟨[], by simpa using hy.symm⟩
    | cons c y =>
      obtain ⟨d, g, rfl⟩ := List.exists_cons_of_ne_nil hg
      have hc : '<' = c := (List.cons.inj hx).1
      have hm : '<' ∈ u ++ ['>'] := by
        rw [(List.cons.inj hy).2, ← hc]
        simp
      exact absurd hm (List.not_mem_append hl (by decide))

end Angled

end TaintGrep.Script
