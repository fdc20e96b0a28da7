import Mathlib.Tactic.Lemma
import TaintGrep.Text.Place

/-! Byte positions of a text that fall between two characters, each given by what the text continues
with there. -/

namespace TaintGrep.Text

lemma byteLength_eq_zero_iff {cs : List Char} : byteLength cs = 0 ↔ cs = [] := by
  cases cs with
  | nil => simp
  | cons c cs =>
    have hc := c.utf8Size_pos
    simp only [byteLength_cons, List.cons_ne_nil, iff_false]
    omega

lemma byteLength_pos {cs : List Char} (h : cs ≠ []) : 0 < byteLength cs :=
  Nat.pos_of_ne_zero (mt byteLength_eq_zero_iff.mp h)

lemma append_inj_of_byteLength {a b c d : List Char} (h : a ++ b = c ++ d)
    (hl : byteLength a = byteLength c) : a = c ∧ b = d := by
  rcases List.append_eq_append_iff.mp h with ⟨u, rfl, rfl⟩ | ⟨u, rfl, rfl⟩
  · obtain rfl : u = [] := byteLength_eq_zero_iff.mp (by simpa using hl)
    simp
  · obtain rfl : u = [] := byteLength_eq_zero_iff.mp (by simpa using hl)
    simp

/-- Byte `q` of the text begins a character or ends the text, and `rest` is what follows it. -/
def ContinuesAt (cs : List Char) (q : Nat) (rest : List Char) : Prop :=
  ∃ passed, cs = passed ++ rest ∧ byteLength passed = q

namespace ContinuesAt

variable {cs r t x : List Char} {p q s : Nat}

lemma start (cs : List Char) : ContinuesAt cs 0 cs := ⟨[], rfl, rfl⟩

lemma skip (h : ContinuesAt cs q (t ++ r)) : ContinuesAt cs (q + byteLength t) r := by
  obtain ⟨u, rfl, rfl⟩ := h
  exact ⟨u ++ t, (List.append_assoc u t r).symm, byteLength_append u t⟩

lemma unique (h : ContinuesAt cs q r) (hx : ContinuesAt cs q x) : r = x := by
  obtain ⟨u, rfl, rfl⟩ := h
  obtain ⟨v, hv, hl⟩ := hx
  exact (append_inj_of_byteLength hv hl.symm).2

lemma exists_between (h : ContinuesAt cs p r) (hx : ContinuesAt cs s x) (hps : p ≤ s) :
    ∃ u, r = u ++ x ∧ s = p + byteLength u := by
  obtain ⟨v, rfl, rfl⟩ := h
  obtain ⟨w, hw, rfl⟩ := hx
  rcases List.append_eq_append_iff.mp hw with ⟨u, rfl, rfl⟩ | ⟨u, rfl, rfl⟩
  · exact ⟨u, rfl, byteLength_append v u⟩
  · rw [byteLength_append] at hps
    obtain rfl : u = [] := byteLength_eq_zero_iff.mp (by omega)
    exact ⟨[], rfl, by simp⟩

lemma within (h : ContinuesAt cs p (t ++ r)) (hx : ContinuesAt cs s x) (hps : p ≤ s)
    (hst : s < p + byteLength t) : ∃ g, g ≠ [] ∧ g <:+ t ∧ x = g ++ r := by
  obtain ⟨u, hu, rfl⟩ := h.exists_between hx hps
  rcases List.append_eq_append_iff.mp hu with ⟨g, rfl, rfl⟩ | ⟨g, rfl, rfl⟩
  · rw [byteLength_append] at hst
    omega
  · refine ⟨g, ?_, List.suffix_append u g, rfl⟩
    rintro rfl
    simp at hst

end ContinuesAt

lemma newlinesWithin?_append (passed rest : List Char) :
    newlinesWithin? (byteLength passed) (passed ++ rest) = some (newlines passed) := by
  induction passed with
  | nil => simp [newlinesWithin?]
  | cons c passed ih =>
    have hc := c.utf8Size_pos
    obtain ⟨n, hn⟩ : ∃ n, c.utf8Size + byteLength passed = n + 1 :=
      Nat.exists_eq_add_one_of_ne_zero (by omega)
    have hsize : n + 1 - c.utf8Size = byteLength passed := by omega
    rw [byteLength_cons, hn, List.cons_append, newlinesWithin?, if_pos (by omega), hsize, ih,
      newlines_cons]
    rfl

lemma Place.advance_eq (p : Place) (cs : List Char) :
    p.advance cs = ⟨p.offset + byteLength cs, p.line + newlines cs⟩ := by
  rw [← Place.advance_offset, ← Place.advance_line]

lemma Place.start_advance (cs : List Char) :
    Place.start.advance cs = ⟨byteLength cs, 1 + newlines cs⟩ := by
  rw [Place.advance_eq, Place.start, Nat.zero_add]

end TaintGrep.Text
